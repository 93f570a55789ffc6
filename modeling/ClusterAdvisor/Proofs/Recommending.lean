import ClusterAdvisor.Proofs.Assignments
import ClusterAdvisor.Proofs.StormSiteCheck
import Mathlib.Data.List.Nodup

/-!
How a recommendation ends and what it leaves behind. It ends in one of five ways, and each of them
fixes the assignments that were made; what is said here about effects, failures and repetition
follows from that list of endings. The services are read from one configuration and the assignments
are made in another one, so a value that is read need not be the value that is replaced.
-/

namespace ClusterAdvisor

open Rules

/-- The host that counts for a component of a service: the first one listed for the component, in
the first service of that name. Services of the same name behind it do not count. -/
def Services.FirstHost (s : Services) (service component host : String) : Prop :=
  ∃ before found after, s.services = before ++ found :: after ∧
    (∀ other ∈ before, other.name ≠ service) ∧ found.name = service ∧
    ∃ others, found.hostsOf component = host :: others

/-- A look-up of a service gives the first entry of its name. -/
theorem Services.service?_eq_some_iff {s : Services} {service : String} {found : Service} :
    s.service? service = some found ↔
      found.name = service ∧ ∃ before after, s.services = before ++ found :: after ∧
        ∀ other ∈ before, other.name ≠ service := by
  simp [Services.service?, List.find?_eq_some_iff_append]

/-- What is said of the entries is what the lookup finds. -/
theorem Services.firstHost_iff_head? {s : Services} {service component host : String} :
    s.FirstHost service component host ↔
      (s.serviceHosts service component).head? = some host := by
  constructor
  · rintro ⟨before, found, after, hsplit, hbefore, hname, others, hhosts⟩
    have hservice : s.service? service = some found :=
      service?_eq_some_iff.mpr ⟨hname, before, after, hsplit, hbefore⟩
    simp [serviceHosts, hservice, hhosts]
  · intro hhead
    cases hservice : s.service? service with
    | none => simp [serviceHosts, hservice] at hhead
    | some found =>
      obtain ⟨hname, before, after, hsplit, hbefore⟩ := service?_eq_some_iff.mp hservice
      rw [serviceHosts, hservice] at hhead
      obtain ⟨others, hhosts⟩ := List.head?_eq_some_iff.mp hhead
      exact ⟨before, found, after, hsplit, hbefore, hname, others, hhosts⟩

namespace Rules

variable {s : Services} {c : Configurations}

theorem serviceFirstHost_eq_ok_iff {service component host : String} :
    serviceFirstHost s service component = .ok host ↔ s.FirstHost service component host := by
  rw [Services.firstHost_iff_head?, serviceFirstHost]
  cases (s.serviceHosts service component).head? with
  | none => simp
  | some first => simp

theorem serviceFirstHost_eq_error_iff {service component : String} {failure : Failure} :
    serviceFirstHost s service component = .error failure ↔
      failure = .missingComponent component ∧ ∀ host, ¬ s.FirstHost service component host := by
  have honly (other : Failure) (herror : serviceFirstHost s service component = .error other) :
      other = .missingComponent component := by
    unfold serviceFirstHost at herror
    split at herror
    · cases herror
    · exact (Except.error.inj herror).symm
  constructor
  · intro herror
    refine ⟨honly failure herror, ?_⟩
    intro host hhost
    rw [serviceFirstHost_eq_ok_iff.mpr hhost] at herror
    cases herror
  · rintro ⟨rfl, hnone⟩
    cases hrun : serviceFirstHost s service component with
    | ok host => exact absurd (serviceFirstHost_eq_ok_iff.mp hrun) (hnone host)
    | error other => rw [honly other hrun]

/-- How a recommendation ends, with the assignments made by then. The database host is set before
anything is asked about Storm, so the two failures about Storm come behind that assignment. -/
inductive Recommends (s : Services) : List Assignment → Except Failure Advised → Prop where
  | noDatabase (hmysql : ∀ host, ¬ s.FirstHost metron metronMysql host) :
      Recommends s [] (.error (.missingComponent metronMysql))
  | withoutStorm {host : String} (hmysql : s.FirstHost metron metronMysql host)
      (hsite : s.configurations.get? stormSite = none) :
      Recommends s [⟨metronEnv, mysqlHost, host⟩] (.ok .withoutStorm)
  | noInterface {host : String} {site : Site} (hmysql : s.FirstHost metron metronMysql host)
      (hsite : s.configurations.get? stormSite = some site)
      (hui : ∀ ui, ¬ s.FirstHost storm stormUi ui) :
      Recommends s [⟨metronEnv, mysqlHost, host⟩] (.error (.missingComponent stormUi))
  | noPort {host ui : String} {site : Site} (hmysql : s.FirstHost metron metronMysql host)
      (hsite : s.configurations.get? stormSite = some site)
      (hui : s.FirstHost storm stormUi ui) (hport : site.get? uiPort = none) :
      Recommends s [⟨metronEnv, mysqlHost, host⟩] (.error (.missingProperty stormSite uiPort))
  | complete {host ui : String} {site : Site} {port : PropertyValue}
      (hmysql : s.FirstHost metron metronMysql host)
      (hsite : s.configurations.get? stormSite = some site)
      (hui : s.FirstHost storm stormUi ui) (hport : site.get? uiPort = some port) :
      Recommends s
        (⟨metronEnv, mysqlHost, host⟩ ::
          ⟨metronEnv, stormRestAddress, ui ++ ":" ++ port.display⟩ ::
            desiredAssignments desiredValues site)
        (.ok (.complete host (ui ++ ":" ++ port.display)))

/-- The cases of the relation are the ends of the computation, so either may stand for the other. -/
theorem Recommends.eq_recommendation {as : List Assignment} {outcome : Except Failure Advised}
    (h : Recommends s as outcome) : recommendation s = ⟨as, outcome⟩ := by
  cases h with
  | noDatabase hmysql =>
      have herror := serviceFirstHost_eq_error_iff.mpr ⟨rfl, hmysql⟩
      simp [recommendation, herror]
  | withoutStorm hmysql hsite =>
      have hhost := serviceFirstHost_eq_ok_iff.mpr hmysql
      simp [recommendation, stormRecommendation, hhost, hsite]
  | @noInterface host site hmysql hsite hui =>
      have hhost := serviceFirstHost_eq_ok_iff.mpr hmysql
      have herror := serviceFirstHost_eq_error_iff.mpr ⟨rfl, hui⟩
      have haddress : restAddress s site = .error (.missingComponent stormUi) := by
        rw [restAddress, herror]
        rfl
      simp [recommendation, stormRecommendation, hhost, hsite, haddress]
  | @noPort host ui site hmysql hsite hui hport =>
      have hhost := serviceFirstHost_eq_ok_iff.mpr hmysql
      have hfirst := serviceFirstHost_eq_ok_iff.mpr hui
      have haddress : restAddress s site = .error (.missingProperty stormSite uiPort) := by
        rw [restAddress, hfirst, hport]
        rfl
      simp [recommendation, stormRecommendation, hhost, hsite, haddress]
  | @complete host ui site port hmysql hsite hui hport =>
      have hhost := serviceFirstHost_eq_ok_iff.mpr hmysql
      have hfirst := serviceFirstHost_eq_ok_iff.mpr hui
      have haddress : restAddress s site = .ok (ui ++ ":" ++ port.display) := by
        rw [restAddress, hfirst, hport]
        rfl
      simp [recommendation, stormRecommendation, hhost, hsite, haddress]

/-- Every recommendation ends in one of the five ways. -/
theorem exists_recommends (s : Services) : ∃ as outcome, Recommends s as outcome := by
  by_cases hmysql : ∃ host, s.FirstHost metron metronMysql host
  · obtain ⟨host, hhost⟩ := hmysql
    cases hsite : s.configurations.get? stormSite with
    | none => exact ⟨_, _, .withoutStorm hhost hsite⟩
    | some site =>
        by_cases hui : ∃ ui, s.FirstHost storm stormUi ui
        · obtain ⟨ui, hfirst⟩ := hui
          cases hport : site.get? uiPort with
          | none => exact ⟨_, _, .noPort hhost hsite hfirst hport⟩
          | some port => exact ⟨_, _, .complete hhost hsite hfirst hport⟩
        · exact ⟨_, _, .noInterface hhost hsite (not_exists.mp hui)⟩
  · exact ⟨_, _, .noDatabase (not_exists.mp hmysql)⟩

/-- The properties that a recommendation may write. -/
def recommendedTargets : List (String × String) :=
  [(metronEnv, mysqlHost), (metronEnv, stormRestAddress), (stormSite, topologyClasspath)]

theorem recommendedTargets_nodup : recommendedTargets.Nodup := by decide

/-- A desired value writes its own property of the Storm site, or nothing. -/
theorem Desired.assignment?_eq_some {d : Desired} {site : Site} {a : Assignment}
    (hset : d.assignment? site = some a) : a.site = stormSite ∧ a.property = d.property := by
  unfold Desired.assignment? at hset
  split at hset
  · obtain rfl := Option.some.inj hset
    exact ⟨rfl, rfl⟩
  · dsimp only at hset
    split at hset
    · split at hset
      · cases hset
      · obtain rfl := Option.some.inj hset
        exact ⟨rfl, rfl⟩
    · cases hset

/-- A table of desired values sets its own properties at most, in its own order. -/
theorem desiredAssignments_targets (table : List Desired) (site : Site) :
    ((desiredAssignments table site).map Assignment.target).Sublist
      (table.map fun d => (stormSite, d.property)) := by
  induction table with
  | nil => exact List.Sublist.refl _
  | cons d rest ih =>
    cases hset : d.assignment? site with
    | none => simpa [desiredAssignments, hset] using ih.cons (stormSite, d.property)
    | some a =>
      obtain ⟨hsite, hproperty⟩ := Desired.assignment?_eq_some hset
      have htarget : a.target = (stormSite, d.property) := by
        rw [Assignment.target, hsite, hproperty]
      simpa [desiredAssignments, hset, htarget] using ih

/-- If no other entry has the property of an entry that sets nothing, the table does not set it. -/
theorem notMem_targets_of_assignment?_eq_none {table : List Desired} {d : Desired} {site : Site}
    (hdistinct : (table.map (·.property)).Nodup) (hd : d ∈ table)
    (hnone : d.assignment? site = none) :
    (stormSite, d.property) ∉ (desiredAssignments table site).map Assignment.target := by
  intro hmember
  obtain ⟨a, ha, htarget⟩ := List.mem_map.mp hmember
  obtain ⟨other, hother, hset⟩ := List.mem_filterMap.mp ha
  have hproperty : other.property = d.property :=
    (Desired.assignment?_eq_some hset).2.symm.trans (Prod.mk.inj htarget).2
  obtain rfl := List.inj_on_of_nodup_map hdistinct hother hd hproperty
  rw [hnone] at hset
  cases hset

/-- However a recommendation ends, it writes each of its properties at most once, in a fixed order,
and no other property. -/
theorem Recommends.targets {as : List Assignment} {outcome : Except Failure Advised}
    (h : Recommends s as outcome) : (as.map Assignment.target).Sublist recommendedTargets := by
  have hdatabase : [(metronEnv, mysqlHost)].Sublist recommendedTargets :=
    (List.nil_sublist _).cons_cons _
  cases h with
  | noDatabase _ => exact List.nil_sublist _
  | withoutStorm _ _ => exact hdatabase
  | noInterface _ _ _ => exact hdatabase
  | noPort _ _ _ _ => exact hdatabase
  | @complete host ui site port _ _ _ _ =>
      exact ((desiredAssignments_targets desiredValues site).cons_cons _).cons_cons _

/-- No assignment overwrites another, so each of them can be read back at the end. -/
theorem Recommends.targets_nodup {as : List Assignment} {outcome : Except Failure Advised}
    (h : Recommends s as outcome) : (as.map Assignment.target).Nodup :=
  h.targets.nodup recommendedTargets_nodup

/-- The frame of a recommendation, whether it succeeds or fails. -/
theorem Recommends.frame {as : List Assignment} {outcome : Except Failure Advised}
    (h : Recommends s as outcome) (c : Configurations) (site name : String)
    (huntouched : (site, name) ∉ recommendedTargets) :
    (c.assignAll as).property? site name = c.property? site name :=
  Configurations.property?_assignAll_of_not_mem fun hmember =>
    huntouched (h.targets.subset hmember)

theorem Recommends.property?_of_mem {as : List Assignment} {outcome : Except Failure Advised}
    (h : Recommends s as outcome) (c : Configurations) {a : Assignment} (hmember : a ∈ as) :
    (c.assignAll as).property? a.site a.property = some (.text a.value) :=
  Configurations.property?_assignAll_of_mem h.targets_nodup hmember

/-- What is recommended does not depend on the configuration that it is written to. -/
theorem recommend_eq {as : List Assignment} {outcome : Except Failure Advised}
    (h : Recommends s as outcome) (c : Configurations) :
    recommend s c = (c.assignAll as, outcome) := by
  rw [recommend, h.eq_recommendation]

/-- A recommendation is answered with the configuration that the services have, with the
assignments made in it, or with the failure. -/
theorem Recommends.answer_eq {r : Request} {as : List Assignment}
    {outcome : Except Failure Advised} (h : Recommends r.services as outcome)
    (settings : Settings) :
    r.answer settings .recommendConfigurations =
      outcome.map fun _ => .recommended (r.services.configurations.assignAll as) := by
  rw [Request.answer, recommend_eq h]

/-- The class path behind a recommendation that reads the Storm site `site` and writes where `own`
stands. A class path that is shown as the desired one is left alone, whatever its shape. -/
def classpathAfter (site : Site) (own : Option PropertyValue) : Option PropertyValue :=
  match site.get? topologyClasspath with
  | none => some (.text desiredClasspath)
  | some current =>
    if current.display = desiredClasspath then own
    else some (.text (mergeClasspath current.display desiredClasspath))

/-- The same for any desired value. -/
def Desired.after (d : Desired) (site : Site) (own : Option PropertyValue) : Option PropertyValue :=
  (d.assignment? site).elim own fun a => some (.text a.value)

/-- Each desired value behind a recommendation: what was set for it, or what there was in the
configuration that was written. -/
theorem Recommends.desired {as : List Assignment} {advised : Advised} {site : Site} {d : Desired}
    (h : Recommends s as (.ok advised)) (hsite : s.configurations.get? stormSite = some site)
    (hd : d ∈ desiredValues) (c : Configurations) :
    (c.assignAll as).property? stormSite d.property =
      d.after site (c.property? stormSite d.property) := by
  have hread := fun a => h.property?_of_mem c (a := a)
  unfold Desired.after
  cases h with
  | withoutStorm _ hnone => simp [hnone] at hsite
  | complete _ hsome _ _ =>
      obtain rfl := Option.some.inj (hsite.symm.trans hsome)
      cases hset : d.assignment? site with
      | none =>
          have huntouched :=
            notMem_targets_of_assignment?_eq_none distinct_desiredValues hd hset
          apply Configurations.property?_assignAll_of_not_mem
          simpa [Assignment.target, metronEnv, stormSite] using huntouched
      | some a =>
          have hmember : a ∈ desiredAssignments desiredValues site :=
            List.mem_filterMap.mpr ⟨d, hd, hset⟩
          obtain ⟨hstorm, hproperty⟩ := Desired.assignment?_eq_some hset
          rw [← hstorm, ← hproperty]
          exact hread a (List.mem_cons_of_mem _ (List.mem_cons_of_mem _ hmember))

/-- The class path is the only desired value; its effect is said here without the table. -/
theorem neededClasspath_after (site : Site) (own : Option PropertyValue) :
    neededClasspath.after site own = classpathAfter site own := by
  have hproperty : neededClasspath.property = topologyClasspath := rfl
  have hvalue : neededClasspath.value = desiredClasspath := rfl
  rw [Desired.after, Desired.assignment?, classpathAfter, hproperty, hvalue]
  cases site.get? topologyClasspath with
  | none => rfl
  | some current => by_cases hshown : current.display = desiredClasspath <;> simp [hshown]

theorem Recommends.classpath {as : List Assignment} {advised : Advised} {site : Site}
    (h : Recommends s as (.ok advised)) (hsite : s.configurations.get? stormSite = some site)
    (c : Configurations) :
    (c.assignAll as).property? stormSite topologyClasspath =
      classpathAfter site (c.property? stormSite topologyClasspath) :=
  (h.desired hsite neededClasspath_mem c).trans (neededClasspath_after site _)

/-- A cluster with two interfaces of Storm and a class path that is a list. -/
def smallCluster : Services where
  services :=
    [⟨metron, [⟨metronMysql, metron, ["node3"]⟩]⟩,
      ⟨storm, [⟨stormUi, storm, ["node1", "node2"]⟩]⟩]
  configurations :=
    ((∅ : Configurations).put stormSite uiPort (.text "8744")).put stormSite topologyClasspath
      (.list [.text "/opt/lib", .text "/etc/hbase/conf"])

/-- A failed recommendation leaves the configuration as it was if there is no database host. The
later failures, which are about Storm, leave it with the database host set and nothing else. -/
theorem recommend_failure_effect (s : Services) (c : Configurations) (failure : Failure)
    (herror : (recommend s c).2 = .error failure) :
    (failure = .missingComponent metronMysql ∧ (recommend s c).1 = c) ∨
      ((failure = .missingComponent stormUi ∨ failure = .missingProperty stormSite uiPort) ∧
        ∃ host, s.FirstHost metron metronMysql host ∧
          (recommend s c).1 = c.put metronEnv mysqlHost (.text host)) := by
  obtain ⟨as, outcome, h⟩ := exists_recommends s
  rw [recommend_eq h] at herror ⊢
  change outcome = .error failure at herror
  subst herror
  cases h with
  | noDatabase _ => exact Or.inl ⟨rfl, rfl⟩
  | noInterface hmysql _ _ => exact Or.inr ⟨Or.inl rfl, _, hmysql, rfl⟩
  | noPort hmysql _ _ _ => exact Or.inr ⟨Or.inr rfl, _, hmysql, rfl⟩

/-- A cluster with a database host and a Storm site, but without an interface of Storm. -/
def databaseOnly : Services where
  services := [⟨metron, [⟨metronMysql, metron, ["node1"]⟩]⟩]
  configurations := (∅ : Configurations).put stormSite uiPort (.text "8744")

theorem recommend_failure_effect_of_databaseOnly :
    (recommend databaseOnly databaseOnly.configurations).2 =
        .error (.missingComponent stormUi) ∧
      ((Failure.missingComponent stormUi = .missingComponent metronMysql ∧
          (recommend databaseOnly databaseOnly.configurations).1 =
            databaseOnly.configurations) ∨
        ((Failure.missingComponent stormUi = .missingComponent stormUi ∨
            Failure.missingComponent stormUi = .missingProperty stormSite uiPort) ∧
          ∃ host, databaseOnly.FirstHost metron metronMysql host ∧
            (recommend databaseOnly databaseOnly.configurations).1 =
              databaseOnly.configurations.put metronEnv mysqlHost (.text host))) :=
  ⟨rfl, recommend_failure_effect databaseOnly databaseOnly.configurations
    (.missingComponent stormUi) rfl⟩

/-- A failed recommendation need not leave the configuration as it was: the database host that was
set before the failure stays set. -/
theorem failed_recommendation_not_atomic :
    ¬ ∀ (s : Services) (c : Configurations) (failure : Failure),
      (recommend s c).2 = .error failure → (recommend s c).1 = c := by
  intro hatomic
  have hsame := hatomic databaseOnly databaseOnly.configurations (.missingComponent stormUi) rfl
  have hset : (recommend databaseOnly databaseOnly.configurations).1.property?
      metronEnv mysqlHost = some (.text "node1") := rfl
  have hunset : databaseOnly.configurations.property? metronEnv mysqlHost = none := rfl
  rw [hsame, hunset] at hset
  cases hset

end Rules

end ClusterAdvisor
