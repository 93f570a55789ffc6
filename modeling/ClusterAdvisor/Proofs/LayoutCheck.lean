import Mathlib.Data.List.Basic
import ClusterAdvisor.Proofs.ListedHosts

/-!
What the check of a layout answers, in terms of the hosts that are listed for each component. It
fails exactly if one of the components of Metron runs nowhere, and for the first such one; else it
tells what is out of place. Of the components of Metron only the first host counts, of the others
only which hosts they have, and more hosts of those can only make items disappear.
-/

namespace ClusterAdvisor

namespace Rules

/-- The components that have to run somewhere, in the order in which they are asked for. -/
def metronComponents : List String :=
  [metronParsers, metronEnrichment, metronIndexing, metronMysql]

/-- The components of which one has to be near. -/
def neighbourComponents : List String :=
  [kafkaBroker, supervisor, zookeeperClient, hdfsClient, hbaseClient]

structure FirstHosts (hosts : String → List String) (m : MetronHosts) : Prop where
  parsers : (hosts metronParsers).head? = some m.parsers
  enrichment : (hosts metronEnrichment).head? = some m.enrichment
  indexing : (hosts metronIndexing).head? = some m.indexing
  mysql : (hosts metronMysql).head? = some m.mysql

def told (violated : Prop) [Decidable violated] (item : Item) : List Item :=
  if violated then [item] else []

def misplacements (hosts : String → List String) (m : MetronHosts) : List Item :=
  told (m.parsers ∉ hosts kafkaBroker)
    ⟨.error, "Metron must be colocated with an instance of KAFKA BROKER",
      .hostComponent metronParsers m.parsers⟩ ++
  told (m.parsers ∉ hosts supervisor)
    ⟨.warning, "Metron must be colocated with an instance of STORM SUPERVISOR",
      .hostComponent metronParsers m.parsers⟩ ++
  told (m.enrichment ≠ m.parsers)
    ⟨.error,
      "Metron Enrichment Master must be co-located with Metron Parsers on " ++ m.parsers,
      .hostComponent metronEnrichment m.enrichment⟩ ++
  told (m.indexing ≠ m.parsers)
    ⟨.error, "Metron Indexing must be co-located with Metron Parsers on " ++ m.parsers,
      .hostComponent metronIndexing m.indexing⟩ ++
  told (m.mysql ≠ m.parsers)
    ⟨.error, "Metron MySQL Server must be co-located with Metron Parsers on " ++ m.parsers,
      .hostComponent metronMysql m.mysql⟩ ++
  told (m.parsers ∉ hosts zookeeperClient)
    ⟨.warning, "Metron must be co-located with an instance of Zookeeper Client",
      .hostComponent metronParsers m.parsers⟩ ++
  told (m.parsers ∉ hosts hdfsClient)
    ⟨.warning, "Metron must be co-located with an instance of HDFS Client",
      .hostComponent metronParsers m.parsers⟩ ++
  told (m.enrichment ∉ hosts hbaseClient)
    ⟨.warning, "Metron Enrichment Master must be co-located with an instance of HBase Client",
      .hostComponent metronEnrichment m.enrichment⟩

/-- The two ways in which the check of a layout ends. -/
inductive LayoutCheck (hosts : String → List String) : Except Failure (List Item) → Prop where
  | missing {name : String} (hfirst : metronComponents.find? (hosts · = []) = some name) :
      LayoutCheck hosts (.error (.missingComponent name))
  | placed {m : MetronHosts} (hfirst : FirstHosts hosts m) :
      LayoutCheck hosts (.ok (misplacements hosts m))

variable {hosts more : String → List String} {m : MetronHosts} {p : Placement}

/-- What is violated less often is told less often. -/
theorem told_sublist {less greater : Prop} [Decidable less] [Decidable greater]
    (himplies : less → greater) (item : Item) : (told less item).Sublist (told greater item) := by
  unfold told
  by_cases hless : less
  · rw [if_pos hless, if_pos (himplies hless)]
  · rw [if_neg hless]
    exact List.nil_sublist _

/-- Takes the first rule off the list, with the condition that it stands for. -/
theorem broken_cons {violated : Prop} [Decidable violated] {rule : Rule}
    (hkept : rule.kept = true ↔ ¬ violated) (rules : List Rule) :
    broken (rule :: rules) = told violated rule.item ++ broken rules := by
  unfold broken told
  by_cases hviolated : violated
  · have hnot : rule.kept = false := by simpa [hviolated] using hkept
    simp [hnot, hviolated]
  · have hyes : rule.kept = true := hkept.mpr hviolated
    simp [hyes, hviolated]

theorem broken_neighbour (level : Severity) (message needed component host : String)
    (rules : List Rule) :
    broken (neighbour p level message needed component host :: rules) =
      told (host ∉ p.hosts needed) (.onHost level message component host) ++ broken rules :=
  broken_cons (by simp [neighbour, Placement.runsOn_iff]) rules

theorem broken_withParsers (parsers subject component host : String) (rules : List Rule) :
    broken (withParsers parsers subject component host :: rules) =
      told (host ≠ parsers)
        (.onHost .error (subject ++ " must be co-located with Metron Parsers on " ++ parsers)
          component host) ++ broken rules :=
  broken_cons (by simp [withParsers]) rules

/-- The rules, one by one in their order, are what can be out of place. -/
theorem broken_colocationRules (p : Placement) (m : MetronHosts) :
    broken (colocationRules p m) = misplacements p.hosts m := by
  have hnone : broken [] = [] := rfl
  simp only [colocationRules, broken_neighbour, broken_withParsers, hnone, List.append_nil,
    misplacements, List.append_assoc]
  rfl

theorem requiredFirstHost_cases (p : Placement) (name : String) :
    p.hosts name = [] ∧ requiredFirstHost p name = .error (.missingComponent name) ∨
      ∃ host others, p.hosts name = host :: others ∧ requiredFirstHost p name = .ok host := by
  unfold requiredFirstHost Placement.firstHost?
  cases hhosts : p.hosts name with
  | nil => exact Or.inl ⟨rfl, rfl⟩
  | cons host others => exact Or.inr ⟨host, others, rfl, rfl⟩

/-- What the check gives depends on the lookup of hosts alone; the proofs behind this are about the
lookup. -/
theorem layoutCheck_checkPlacement (p : Placement) : LayoutCheck p.hosts (checkPlacement p) := by
  unfold checkPlacement MetronHosts.ofPlacement
  -- A component is asked for once those before it are known to run somewhere, so each case in which
  -- one is missing needs what the earlier ones gave.
  rcases requiredFirstHost_cases p metronParsers with ⟨hnone, hrun⟩ | ⟨parsers, _, hparsers, hrun⟩
  · rw [hrun]
    exact .missing (by simp [metronComponents, hnone])
  rw [hrun]
  rcases requiredFirstHost_cases p metronEnrichment with
    ⟨hnone, hrun⟩ | ⟨enrichment, _, henrichment, hrun⟩
  · rw [hrun]
    exact .missing (by simp [metronComponents, hparsers, hnone])
  rw [hrun]
  rcases requiredFirstHost_cases p metronIndexing with
    ⟨hnone, hrun⟩ | ⟨indexing, _, hindexing, hrun⟩
  · rw [hrun]
    exact .missing (by simp [metronComponents, hparsers, henrichment, hnone])
  rw [hrun]
  rcases requiredFirstHost_cases p metronMysql with ⟨hnone, hrun⟩ | ⟨mysql, _, hmysql, hrun⟩
  · rw [hrun]
    exact .missing (by simp [metronComponents, hparsers, henrichment, hindexing, hnone])
  rw [hrun]
  have hplaced : FirstHosts p.hosts ⟨parsers, enrichment, indexing, mysql⟩ :=
    { parsers := by simp [hparsers]
      enrichment := by simp [henrichment]
      indexing := by simp [hindexing]
      mysql := by simp [hmysql] }
  change LayoutCheck p.hosts
    (.ok (broken (colocationRules p ⟨parsers, enrichment, indexing, mysql⟩)))
  rw [broken_colocationRules]
  exact .placed hplaced

theorem FirstHosts.find?_eq_none (h : FirstHosts hosts m) :
    metronComponents.find? (hosts · = []) = none := by
  have hsome {name host : String} (hhead : (hosts name).head? = some host) : hosts name ≠ [] := by
    intro hnil
    simp [hnil] at hhead
  simp [metronComponents, hsome h.parsers, hsome h.enrichment, hsome h.indexing, hsome h.mysql]

theorem FirstHosts.unique {other : MetronHosts} (h : FirstHosts hosts m)
    (hother : FirstHosts hosts other) : m = other := by
  obtain ⟨parsers, enrichment, indexing, mysql⟩ := m
  obtain ⟨parsers', enrichment', indexing', mysql'⟩ := other
  obtain rfl : parsers = parsers' := Option.some.inj (h.parsers.symm.trans hother.parsers)
  obtain rfl : enrichment = enrichment' :=
    Option.some.inj (h.enrichment.symm.trans hother.enrichment)
  obtain rfl : indexing = indexing' := Option.some.inj (h.indexing.symm.trans hother.indexing)
  obtain rfl : mysql = mysql' := Option.some.inj (h.mysql.symm.trans hother.mysql)
  rfl

/-- A lookup leads to one outcome, so two checks are compared by their lookups. -/
theorem LayoutCheck.unique {outcome other : Except Failure (List Item)}
    (h : LayoutCheck hosts outcome) (hother : LayoutCheck hosts other) : outcome = other := by
  cases h with
  | missing hfirst =>
      cases hother with
      | missing hsecond =>
          obtain rfl := Option.some.inj (hfirst.symm.trans hsecond)
          rfl
      | placed hplaced => simp [hplaced.find?_eq_none] at hfirst
  | placed hplaced =>
      cases hother with
      | missing hfirst => simp [hplaced.find?_eq_none] at hfirst
      | placed hsecond => rw [hplaced.unique hsecond]

theorem LayoutCheck.eq_error_iff {outcome : Except Failure (List Item)}
    (h : LayoutCheck hosts outcome) (failure : Failure) :
    outcome = .error failure ↔
      ∃ name, metronComponents.find? (hosts · = []) = some name ∧
        failure = .missingComponent name := by
  constructor
  · rintro rfl
    cases h with
    | missing hfirst => exact ⟨_, hfirst, rfl⟩
  · rintro ⟨name, hname, rfl⟩
    exact h.unique (.missing hname)

theorem LayoutCheck.eq_ok_iff {outcome : Except Failure (List Item)}
    (h : LayoutCheck hosts outcome) (found : List Item) :
    outcome = .ok found ↔ ∃ m, FirstHosts hosts m ∧ found = misplacements hosts m := by
  constructor
  · rintro rfl
    cases h with
    | placed hfirst => exact ⟨_, hfirst, rfl⟩
  · rintro ⟨m, hm, rfl⟩
    exact h.unique (.placed hm)

/-- More hosts for the components of which one has to be near, and the same first hosts for the
others. -/
structure Grows (hosts more : String → List String) : Prop where
  first : ∀ name ∈ metronComponents, (more name).head? = (hosts name).head?
  neighbours : ∀ name ∈ neighbourComponents, hosts name ⊆ more name

theorem Grows.of_eq (hsame : ∀ name ∈ layoutComponents, more name = hosts name) :
    Grows hosts more where
  first name hname := by
    have hlayout : name ∈ layoutComponents :=
      (by decide : metronComponents ⊆ layoutComponents) hname
    rw [hsame name hlayout]
  neighbours name hname := by
    have hlayout : name ∈ layoutComponents :=
      (by decide : neighbourComponents ⊆ layoutComponents) hname
    rw [hsame name hlayout]
    exact List.Subset.refl _

theorem Grows.firstHosts (hgrows : Grows hosts more) (h : FirstHosts hosts m) :
    FirstHosts more m where
  parsers := (hgrows.first _ (by simp [metronComponents])).trans h.parsers
  enrichment := (hgrows.first _ (by simp [metronComponents])).trans h.enrichment
  indexing := (hgrows.first _ (by simp [metronComponents])).trans h.indexing
  mysql := (hgrows.first _ (by simp [metronComponents])).trans h.mysql

theorem find?_congr_of_mem {test other : String → Bool} {names : List String}
    (hsame : ∀ name ∈ names, test name = other name) : names.find? test = names.find? other := by
  induction names with
  | nil => rfl
  | cons first rest ih =>
    have hfirst : test first = other first := hsame first List.mem_cons_self
    have hrest := ih fun name hname => hsame name (List.mem_cons_of_mem first hname)
    simp only [List.find?_cons, hfirst, hrest]

/-- The components that have to run somewhere keep their hosts, so the first one without a host
stays the same. -/
theorem Grows.find?_eq (hgrows : Grows hosts more) :
    metronComponents.find? (more · = []) = metronComponents.find? (hosts · = []) := by
  apply find?_congr_of_mem
  intro name hname
  have hempty : more name = [] ↔ hosts name = [] := by
    rw [← List.head?_eq_none_iff, hgrows.first name hname, List.head?_eq_none_iff]
  simp [hempty]

/-- More hosts of neighbours can put something right, and can put nothing out of place. -/
theorem Grows.misplacements_sublist (hgrows : Grows hosts more) (m : MetronHosts) :
    (misplacements more m).Sublist (misplacements hosts m) := by
  have hfewer {needed : String} (hneeded : needed ∈ neighbourComponents) (host : String)
      (item : Item) :
      (told (host ∉ more needed) item).Sublist (told (host ∉ hosts needed) item) :=
    told_sublist (fun hout hin => hout (hgrows.neighbours needed hneeded hin)) item
  -- The three rules about the components of Metron alone look at no list of hosts.
  have hsame (item : List Item) : item.Sublist item := List.Sublist.refl item
  exact hfewer (by decide) m.parsers _
    |>.append (hfewer (by decide) m.parsers _)
    |>.append (hsame _) |>.append (hsame _) |>.append (hsame _)
    |>.append (hfewer (by decide) m.parsers _)
    |>.append (hfewer (by decide) m.parsers _)
    |>.append (hfewer (by decide) m.enrichment _)

/-- The second outcome is the same failure, or some of the items in the same order. -/
inductive NoWorse : Except Failure (List Item) → Except Failure (List Item) → Prop where
  | failure (failure : Failure) : NoWorse (.error failure) (.error failure)
  | items {found fewer : List Item} (hfewer : fewer.Sublist found) :
      NoWorse (.ok found) (.ok fewer)

/-- Used both ways round, growth shows that something makes no difference at all. -/
theorem NoWorse.antisymm {outcome other : Except Failure (List Item)} (h : NoWorse outcome other)
    (hback : NoWorse other outcome) : outcome = other := by
  cases h with
  | failure failure => rfl
  | items hfewer =>
      cases hback with
      | items hmore => rw [hmore.antisymm hfewer]

/-- Growth and rearrangement are both shown by this step. -/
theorem LayoutCheck.grow {outcome : Except Failure (List Item)} (h : LayoutCheck hosts outcome)
    (hgrows : Grows hosts more) : ∃ later, LayoutCheck more later ∧ NoWorse outcome later := by
  cases h with
  | missing hfirst => exact ⟨_, .missing (hgrows.find?_eq.trans hfirst), .failure _⟩
  | @placed m hfirst =>
      exact ⟨_, .placed (hgrows.firstHosts hfirst), .items (hgrows.misplacements_sublist m)⟩

theorem LayoutCheck.congr {outcome : Except Failure (List Item)} (h : LayoutCheck hosts outcome)
    (hthere : Grows hosts more) (hback : Grows more hosts) : LayoutCheck more outcome := by
  obtain ⟨later, hlater, hfewer⟩ := h.grow hthere
  obtain ⟨again, hagain, hmore⟩ := hlater.grow hback
  obtain rfl := h.unique hagain
  rwa [hfewer.antisymm hmore]

end Rules

open Rules

/-- The answer to a request is the check of the hosts that its services list. -/
theorem Request.exists_layoutCheck (r : Request) (settings : Settings) :
    ∃ outcome, LayoutCheck r.services.listedHosts outcome ∧
      r.answer settings .validateLayout = outcome.map Response.items := by
  have hthere : Grows r.placement.hosts r.services.listedHosts :=
    Grows.of_eq fun name hname => (r.hosts_placement hname).symm
  have hback : Grows r.services.listedHosts r.placement.hosts :=
    Grows.of_eq fun name hname => r.hosts_placement hname
  exact ⟨_, (layoutCheck_checkPlacement r.placement).congr hthere hback, rfl⟩

theorem Request.answer_validateLayout_grow {r other : Request} (settings : Settings)
    (hgrows : Grows r.services.listedHosts other.services.listedHosts) :
    (∀ failure, other.answer settings .validateLayout = .error failure ↔
      r.answer settings .validateLayout = .error failure) ∧
    ∀ before, r.answer settings .validateLayout = .ok (.items before) →
      ∃ after, other.answer settings .validateLayout = .ok (.items after) ∧
        after.Sublist before := by
  obtain ⟨outcome, hcheck, hanswer⟩ := r.exists_layoutCheck settings
  obtain ⟨later, hlater, hother⟩ := other.exists_layoutCheck settings
  obtain ⟨grown, hgrown, hnoWorse⟩ := hcheck.grow hgrows
  obtain rfl := hlater.unique hgrown
  rw [hanswer, hother]
  cases hnoWorse with
  | failure _ => exact ⟨fun _ => Iff.rfl, fun before hok => by cases hok⟩
  | @items found fewer hfewer =>
      constructor
      · intro failure
        simp [Except.map]
      · intro before hok
        obtain rfl := Response.items.inj (Except.ok.inj hok)
        exact ⟨fewer, rfl, hfewer⟩

theorem Request.answer_validateLayout_congr {r other : Request} (settings : Settings)
    (hthere : Grows r.services.listedHosts other.services.listedHosts)
    (hback : Grows other.services.listedHosts r.services.listedHosts) :
    other.answer settings .validateLayout = r.answer settings .validateLayout := by
  obtain ⟨outcome, hcheck, hanswer⟩ := r.exists_layoutCheck settings
  obtain ⟨later, hlater, hother⟩ := other.exists_layoutCheck settings
  obtain rfl := hlater.unique (hcheck.congr hthere hback)
  rw [hanswer, hother]

/-- The check of a layout fails exactly for the first component of Metron that is listed nowhere,
and otherwise tells exactly what is out of place. -/
theorem validateLayout_answer_iff (r : Request) (settings : Settings) :
    (∀ failure, r.answer settings .validateLayout = .error failure ↔
      ∃ name, metronComponents.find? (r.services.listedHosts · = []) = some name ∧
        failure = .missingComponent name) ∧
    ∀ response, r.answer settings .validateLayout = .ok response ↔
      ∃ m, FirstHosts r.services.listedHosts m ∧
        response = .items (misplacements r.services.listedHosts m) := by
  obtain ⟨outcome, hcheck, hanswer⟩ := r.exists_layoutCheck settings
  rw [hanswer]
  constructor
  · intro failure
    rw [← hcheck.eq_error_iff failure]
    cases outcome with
    | error found => simp [Except.map]
    | ok found => simp [Except.map]
  · intro response
    constructor
    · intro hok
      cases outcome with
      | error found => cases hok
      | ok found =>
          obtain ⟨m, hm, rfl⟩ := (hcheck.eq_ok_iff found).mp rfl
          exact ⟨m, hm, (Except.ok.inj hok).symm⟩
    · rintro ⟨m, hm, rfl⟩
      obtain rfl := (hcheck.eq_ok_iff _).mpr ⟨m, hm, rfl⟩
      rfl

end ClusterAdvisor
