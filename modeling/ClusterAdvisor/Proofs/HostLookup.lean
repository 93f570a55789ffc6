import ClusterAdvisor.Proofs.Growth
import ClusterAdvisor.Proofs.RecommendationFailures

/-!
The two ways to look up the hosts of a component: over all services, as the check of the layout does,
and in the first service of a name, as a recommendation does. The second list is always a block of
the first one. Where the service is listed once and the component stands nowhere else, the two are
the same, and the database host that is recommended is the one that the layout is checked for.
-/

namespace ClusterAdvisor

open Rules

namespace Services

variable {s : Services} {service component : String}

/-- Exactly one entry has the name of the service. -/
def ListedOnce (s : Services) (service : String) : Prop :=
  (s.services.filter (·.name = service)).length = 1

/-- Every component of the name stands in an entry of the service. -/
def OnlyUnder (s : Services) (service component : String) : Prop :=
  ∀ entry ∈ s.services, ∀ c ∈ entry.components, c.name = component → entry.name = service

theorem hostsOf_split {before after : List Service} {found : Service}
    (hsplit : s.services = before ++ found :: after) (component : String) :
    s.hostsOf component =
      before.flatMap (·.hostsOf component) ++ found.hostsOf component ++
        after.flatMap (·.hostsOf component) := by
  have hentries : s.hostsOf component = s.services.flatMap (·.hostsOf component) := by
    simp only [hostsOf_eq_listedHosts, listedHosts, Service.hostsOf, flatMap_filter_name]
  rw [hentries, hsplit, List.flatMap_append, List.flatMap_cons, List.append_assoc]

/-- What is found under a service is a block of what is found anywhere: the entries before and
behind the first one of that name may add hosts on both sides. -/
theorem serviceHosts_infix (s : Services) (service component : String) :
    s.serviceHosts service component <:+: s.hostsOf component := by
  unfold serviceHosts service?
  cases hfound : s.services.find? (·.name = service) with
  | none => exact List.nil_infix
  | some found =>
      obtain ⟨before, after, hsplit⟩ := List.append_of_mem (List.mem_of_find?_eq_some hfound)
      exact ⟨_, _, (hostsOf_split hsplit component).symm⟩

/-- The one entry has others in front of it and behind it, none of them with its name. -/
theorem ListedOnce.exists_split (h : s.ListedOnce service) :
    ∃ before found after, s.services = before ++ found :: after ∧
      (∀ entry ∈ before ++ after, entry.name ≠ service) ∧ s.service? service = some found := by
  obtain ⟨found, hsingle⟩ := List.length_eq_one_iff.mp h
  obtain ⟨before, after, hsplit, hbefore, hname, hafter⟩ := List.filter_eq_cons_iff.mp hsingle
  simp only [decide_eq_true_eq] at hbefore hname
  have hafter' := List.filter_eq_nil_iff.mp hafter
  simp only [decide_eq_true_eq] at hafter'
  refine ⟨before, found, after, hsplit, ?_, ?_⟩
  · intro entry hentry
    rcases List.mem_append.mp hentry with hfront | hback
    · exact hbefore entry hfront
    · exact hafter' entry hback
  · rw [service?, hsplit, List.find?_append]
    have hnone : before.find? (·.name = service) = none := by simpa using hbefore
    simp [hnone, hname]

/-- With one entry and no component of the name elsewhere, the blocks on both sides are empty. -/
theorem serviceHosts_eq_hostsOf (honce : s.ListedOnce service)
    (honly : s.OnlyUnder service component) :
    s.serviceHosts service component = s.hostsOf component := by
  obtain ⟨before, found, after, hsplit, hothers, hfound⟩ := honce.exists_split
  have hempty : ∀ entry ∈ before ++ after, entry.hostsOf component = [] := by
    intro entry hentry
    have hmember : entry ∈ s.services := by
      rw [hsplit]
      rcases List.mem_append.mp hentry with hfront | hback
      · exact List.mem_append_left _ hfront
      · exact List.mem_append_right _ (List.mem_cons_of_mem _ hback)
    have hnone : entry.components.filter (·.name = component) = [] := by
      rw [List.filter_eq_nil_iff]
      intro c hc hname
      exact hothers entry hentry (honly entry hmember c hc (by simpa using hname))
    rw [Service.hostsOf, hnone, List.flatMap_nil]
  have hbefore : before.flatMap (·.hostsOf component) = [] :=
    List.flatMap_eq_nil_iff.mpr fun entry h => hempty entry (List.mem_append_left _ h)
  have hafter : after.flatMap (·.hostsOf component) = [] :=
    List.flatMap_eq_nil_iff.mpr fun entry h => hempty entry (List.mem_append_right _ h)
  rw [hostsOf_split hsplit, hbefore, hafter, List.nil_append, List.append_nil, serviceHosts, hfound]

end Services

namespace Rules

variable {hosts : String → List String} {m : MetronHosts}

theorem mem_told {violated : Prop} [Decidable violated] {item told' : Item} :
    item ∈ told violated told' ↔ violated ∧ item = told' := by
  unfold told
  by_cases hviolated : violated
  · simp [hviolated]
  · simp [hviolated]

/-- Of all that can be out of place, only the rule about the database tells of its component. -/
theorem exists_mysql_item_iff (hosts : String → List String) (m : MetronHosts) :
    (∃ item ∈ misplacements hosts m, item.level = .error ∧ item.component? = some metronMysql) ↔
      m.mysql ≠ m.parsers := by
  have hparsers : metronParsers ≠ metronMysql := by decide
  have henrichment : metronEnrichment ≠ metronMysql := by decide
  have hindexing : metronIndexing ≠ metronMysql := by decide
  constructor
  · rintro ⟨item, hitem, _, hcomponent⟩
    simp only [misplacements, List.mem_append, mem_told] at hitem
    rcases hitem with ((((((⟨_, rfl⟩ | ⟨_, rfl⟩) | ⟨_, rfl⟩) | ⟨_, rfl⟩) | ⟨hmysql, rfl⟩) |
      ⟨_, rfl⟩) | ⟨_, rfl⟩) | ⟨_, rfl⟩
    · exact absurd (Option.some.inj hcomponent) hparsers
    · exact absurd (Option.some.inj hcomponent) hparsers
    · exact absurd (Option.some.inj hcomponent) henrichment
    · exact absurd (Option.some.inj hcomponent) hindexing
    · exact hmysql
    · exact absurd (Option.some.inj hcomponent) hparsers
    · exact absurd (Option.some.inj hcomponent) hparsers
    · exact absurd (Option.some.inj hcomponent) henrichment
  · intro hmysql
    refine ⟨⟨.error, "Metron MySQL Server must be co-located with Metron Parsers on " ++ m.parsers,
      .hostComponent metronMysql m.mysql⟩, ?_, rfl, rfl⟩
    simp [misplacements, mem_told, hmysql]

end Rules

namespace Request

variable {r : Request} {settings : Settings}

/-- The failures of a recommendation are told apart by their components, so the one about the
database comes from the lookup of the database host alone. -/
theorem recommend_noDatabase_iff :
    r.answer settings .recommendConfigurations = .error (.missingComponent metronMysql) ↔
      r.services.serviceHosts metron metronMysql = [] := by
  obtain ⟨as, outcome, h⟩ := exists_recommends r.services
  rw [h.answer_eq settings, ← Services.hostless_iff]
  exact (h.verdict _).noDatabase

/-- What a successful recommendation sets as the database host. -/
theorem exists_recommended_mysql {c : Configurations}
    (hok : r.answer settings .recommendConfigurations = .ok (.recommended c)) :
    ∃ host, (r.services.serviceHosts metron metronMysql).head? = some host ∧
      c.property? metronEnv mysqlHost = some (.text host) := by
  obtain ⟨as, advised, h, hresponse⟩ := answer_recommend_ok_iff.mp hok
  obtain rfl := Response.recommended.inj hresponse
  have hread := fun a => h.property?_of_mem r.services.configurations (a := a)
  cases h with
  | @withoutStorm host hhost _ =>
      exact ⟨host, Services.firstHost_iff_head?.mp hhost,
        hread ⟨metronEnv, mysqlHost, host⟩ (by simp)⟩
  | @complete host _ _ _ hhost _ _ _ =>
      exact ⟨host, Services.firstHost_iff_head?.mp hhost,
        hread ⟨metronEnv, mysqlHost, host⟩ (by simp)⟩

end Request

/-- The hosts of a component under a service are a block of its hosts anywhere, and all of them if
the service is listed once and the component stands nowhere else. If that is so for the database of
Metron, recommending misses the database exactly where the layout has no host for it; and where
both succeed, the layout has an error about the database exactly if another host is recommended than
the first one of the parsers. -/
theorem host_lookups_agree (r : Request) (settings : Settings) :
    (∀ service component,
      r.services.serviceHosts service component <:+: r.services.hostsOf component ∧
      (r.services.ListedOnce service → r.services.OnlyUnder service component →
        r.services.serviceHosts service component = r.services.hostsOf component)) ∧
    (r.services.ListedOnce metron → r.services.OnlyUnder metron metronMysql →
      (r.answer settings .recommendConfigurations = .error (.missingComponent metronMysql) ↔
        r.placement.hosts metronMysql = []) ∧
      ∀ found c, r.answer settings .validateLayout = .ok (.items found) →
        r.answer settings .recommendConfigurations = .ok (.recommended c) →
        ∃ parsers, (r.services.hostsOf metronParsers).head? = some parsers ∧
          ((∃ item ∈ found, item.level = .error ∧ item.component? = some metronMysql) ↔
            c.property? metronEnv mysqlHost ≠ some (.text parsers))) := by
  refine ⟨fun service component => ⟨r.services.serviceHosts_infix service component,
    Services.serviceHosts_eq_hostsOf⟩, ?_⟩
  intro honce honly
  have hsame : r.services.serviceHosts metron metronMysql = r.services.hostsOf metronMysql :=
    Services.serviceHosts_eq_hostsOf honce honly
  constructor
  · rw [Request.recommend_noDatabase_iff, hsame, r.hosts_placement (by decide),
      Services.hostsOf_eq_listedHosts]
  · intro found c hlayout hrecommended
    obtain ⟨outcome, hcheck, hanswer⟩ := r.exists_layoutCheck settings
    have houtcome : outcome = .ok found := by
      rw [hanswer] at hlayout
      cases outcome with
      | error failure => cases hlayout
      | ok items => rw [Response.items.inj (Except.ok.inj hlayout)]
    obtain ⟨m, hfirst, rfl⟩ := (hcheck.eq_ok_iff found).mp houtcome
    obtain ⟨host, hhost, hset⟩ := Request.exists_recommended_mysql hrecommended
    rw [hsame, Services.hostsOf_eq_listedHosts, hfirst.mysql] at hhost
    obtain rfl := Option.some.inj hhost
    refine ⟨m.parsers, by rw [Services.hostsOf_eq_listedHosts]; exact hfirst.parsers, ?_⟩
    rw [exists_mysql_item_iff, hset]
    simp

/-- A cluster whose database is listed twice, first without hosts, and not on the host of the
parsers. -/
def apartCluster : Services where
  services :=
    [⟨storm, [⟨supervisor, storm, ["node2"]⟩]⟩,
      ⟨metron, [⟨metronParsers, metron, ["node1"]⟩, ⟨metronEnrichment, metron, ["node1"]⟩,
        ⟨metronIndexing, metron, ["node1"]⟩, ⟨metronMysql, metron, []⟩,
        ⟨metronMysql, metron, ["node2", "node1"]⟩]⟩]
  configurations := ∅

def apartRequest : Request := ⟨apartCluster, ⟨["node1", "node2"]⟩, none, .null⟩

def apartRecommendation : Configurations :=
  (recommend apartCluster apartCluster.configurations).1

theorem host_lookups_agree_of_apartRequest :
    apartCluster.ListedOnce metron ∧ apartCluster.OnlyUnder metron metronMysql ∧
      apartCluster.serviceHosts metron metronMysql = apartCluster.hostsOf metronMysql ∧
      ∃ found, apartRequest.answer Settings.default .validateLayout = .ok (.items found) ∧
        apartRequest.answer Settings.default .recommendConfigurations =
          .ok (.recommended apartRecommendation) ∧
        ∃ parsers, (apartCluster.hostsOf metronParsers).head? = some parsers ∧
          ((∃ item ∈ found, item.level = .error ∧ item.component? = some metronMysql) ↔
            apartRecommendation.property? metronEnv mysqlHost ≠ some (.text parsers)) := by
  have honce : apartCluster.ListedOnce metron := by
    unfold Services.ListedOnce
    decide
  have honly : apartCluster.OnlyUnder metron metronMysql := by
    unfold Services.OnlyUnder
    decide
  obtain ⟨hblock, hagree⟩ := host_lookups_agree apartRequest Settings.default
  obtain ⟨_, herror⟩ := hagree honce honly
  exact ⟨honce, honly, (hblock metron metronMysql).2 honce honly,
    misplacements apartCluster.listedHosts ⟨"node1", "node1", "node1", "node2"⟩, rfl, rfl,
    herror _ apartRecommendation rfl rfl⟩

end ClusterAdvisor
