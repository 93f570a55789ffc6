import ClusterAdvisor.Proofs.Recommending

/-!
When a recommendation fails. It asks for three things in a fixed order: a host of the database, a
host of the interface of Storm, and the port of that interface. The last two are asked for only if
there is a Storm site, and the first one that is missing is the failure.
-/

namespace ClusterAdvisor

open Rules

namespace Services

variable {s : Services} {service component : String}

/-- There is no entry of the service, or the first one lists no host for the component: it may have
the component several times, each time without hosts, or not at all. What entries of the same name
behind it list does not count. -/
def Hostless (s : Services) (service component : String) : Prop :=
  (∀ entry ∈ s.services, entry.name ≠ service) ∨
    ∃ before found after, s.services = before ++ found :: after ∧
      (∀ other ∈ before, other.name ≠ service) ∧ found.name = service ∧
      ∀ c ∈ found.components, c.name = component → c.hosts = []

theorem hostsOf_eq_nil_iff {found : Service} :
    found.hostsOf component = [] ↔ ∀ c ∈ found.components, c.name = component → c.hosts = [] := by
  simp [Service.hostsOf, List.flatMap_eq_nil_iff]

/-- What is said of the entries is what the lookup finds. -/
theorem hostless_iff : s.Hostless service component ↔ s.serviceHosts service component = [] := by
  constructor
  · rintro (hmissing | ⟨before, found, after, hsplit, hbefore, hname, hempty⟩)
    · have hnone : s.service? service = none := by simpa [service?] using hmissing
      rw [serviceHosts, hnone]
    · have hfound : s.service? service = some found :=
        service?_eq_some_iff.mpr ⟨hname, before, after, hsplit, hbefore⟩
      rw [serviceHosts, hfound]
      exact hostsOf_eq_nil_iff.mpr hempty
  · intro hempty
    cases hservice : s.service? service with
    | none => exact .inl (by simpa [service?] using hservice)
    | some found =>
      obtain ⟨hname, before, after, hsplit, hbefore⟩ := service?_eq_some_iff.mp hservice
      rw [serviceHosts, hservice] at hempty
      exact .inr ⟨before, found, after, hsplit, hbefore, hname, hostsOf_eq_nil_iff.mp hempty⟩

theorem hostless_iff_forall_not_firstHost :
    s.Hostless service component ↔ ∀ host, ¬ s.FirstHost service component host := by
  simp only [hostless_iff, firstHost_iff_head?]
  cases s.serviceHosts service component with
  | nil => simp
  | cons first others => simp

/-- The cases of a verdict exclude one another. -/
theorem FirstHost.not_hostless {host : String} (h : s.FirstHost service component host) :
    ¬ s.Hostless service component := fun hnone =>
  hostless_iff_forall_not_firstHost.mp hnone host h

end Services

/-- Which answer a recommendation gives, told from the services and their configuration alone. -/
structure RecommendationVerdict (s : Services) (answer : Except Failure Response) : Prop where
  noDatabase : answer = .error (.missingComponent metronMysql) ↔ s.Hostless metron metronMysql
  noInterface : answer = .error (.missingComponent stormUi) ↔
    ¬ s.Hostless metron metronMysql ∧ s.configurations.contains stormSite = true ∧
      s.Hostless storm stormUi
  noPort : answer = .error (.missingProperty stormSite uiPort) ↔
    ¬ s.Hostless metron metronMysql ∧ s.configurations.contains stormSite = true ∧
      ¬ s.Hostless storm stormUi ∧ s.configurations.property? stormSite uiPort = none
  /-- Without a Storm site a host of the database is enough, whatever there is of Storm. -/
  succeeds : (∃ c, answer = .ok (.recommended c)) ↔
    ¬ s.Hostless metron metronMysql ∧ (s.configurations.contains stormSite = true →
      ¬ s.Hostless storm stormUi ∧ s.configurations.property? stormSite uiPort ≠ none)
  noOther : (∃ c, answer = .ok (.recommended c)) ∨ ∃ failure, answer = .error failure ∧
    failure ∈ [.missingComponent metronMysql, .missingComponent stormUi,
      .missingProperty stormSite uiPort]

namespace Rules

variable {s : Services}

/-- Each of the five endings meets the condition of its own answer and rules out all others. -/
theorem Recommends.verdict {as : List Assignment} {outcome : Except Failure Advised}
    (h : Recommends s as outcome) (c : Configurations) :
    RecommendationVerdict s (outcome.map fun _ => .recommended c) := by
  have hcomponents : metronMysql ≠ stormUi := by decide
  cases h with
  | noDatabase hmysql =>
    have hnone := Services.hostless_iff_forall_not_firstHost.mpr hmysql
    constructor <;> simp [Except.map, hnone, hcomponents]
  | withoutStorm hmysql hsite =>
    have hhost := hmysql.not_hostless
    constructor <;> simp [Except.map, hhost, Table.contains, hsite]
  | noInterface hmysql hsite hui =>
    have hhost := hmysql.not_hostless
    have hnone := Services.hostless_iff_forall_not_firstHost.mpr hui
    constructor <;> simp [Except.map, hhost, hnone, Table.contains, hsite, hcomponents.symm]
  | noPort hmysql hsite hui hport =>
    have hhost := hmysql.not_hostless
    have hfirst := hui.not_hostless
    have hunset : s.configurations.property? stormSite uiPort = none := by
      rw [Configurations.property?_of_get? hsite, hport]
    constructor <;> simp [Except.map, hhost, hfirst, Table.contains, hsite, hunset]
  | @complete _ _ _ port hmysql hsite hui hport =>
    have hhost := hmysql.not_hostless
    have hfirst := hui.not_hostless
    have hset : s.configurations.property? stormSite uiPort = some port := by
      rw [Configurations.property?_of_get? hsite, hport]
    constructor <;> simp [Except.map, hhost, hfirst, Table.contains, hsite, hset]

end Rules

/-- A recommendation fails exactly where something that it asks for is missing, with the first such
thing in the order in which it asks. The hosts document, the recommended defaults, the other data
about the cluster and the settings have no part in its answer. -/
theorem recommend_verdict (r : Request) (settings : Settings) :
    RecommendationVerdict r.services (r.answer settings .recommendConfigurations) ∧
      ∀ hosts defaults clusterData others,
        Request.answer ⟨r.services, hosts, defaults, clusterData⟩ others .recommendConfigurations =
          r.answer settings .recommendConfigurations := by
  obtain ⟨as, outcome, h⟩ := exists_recommends r.services
  constructor
  · rw [h.answer_eq settings]
    exact h.verdict _
  · intro hosts defaults clusterData others
    rfl

end ClusterAdvisor
