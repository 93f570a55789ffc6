import Mathlib.Data.List.Forall2
import Mathlib.Data.List.Perm.Basic
import ClusterAdvisor.Proofs.ConfigurationCheck
import ClusterAdvisor.Proofs.LayoutCheck

/-!
What the two checks do not see. Of the hosts of most components they only see which there are, so
neither the order of services, components and hosts counts nor how often a host is listed. The hosts
of the components of Metron are seen through the first one; where only one component of a name has
hosts at all, moving components around cannot put another host in front of it.
-/

namespace ClusterAdvisor

open Rules

/-- The request about other services. -/
def Request.withServices (r : Request) (services : Services) : Request :=
  { r with services := services }

/-- A component with the same name and hosts, these in any order and any number of times if it is
one of which some host has to be near. -/
structure Component.SameHosts (c other : Component) : Prop where
  name : other.name = c.name
  listed : c.name ∉ neighbourComponents → other.hosts = c.hosts
  members : ∀ host, host ∈ other.hosts ↔ host ∈ c.hosts

namespace Component.SameHosts

variable {c other : Component}

/-- Only neighbours may have their hosts listed in another way. -/
theorem hostsFor_eq (h : c.SameHosts other) {name : String} (hname : name ∉ neighbourComponents) :
    other.hostsFor name = c.hostsFor name := by
  unfold Component.hostsFor
  rw [h.name]
  by_cases hc : c.name = name
  · subst hc
    rw [if_pos rfl, if_pos rfl, h.listed hname]
  · rw [if_neg hc, if_neg hc]

theorem mem_hostsFor (h : c.SameHosts other) {name host : String} :
    host ∈ other.hostsFor name ↔ host ∈ c.hostsFor name := by
  unfold Component.hostsFor
  rw [h.name]
  by_cases hc : c.name = name
  · rw [if_pos hc, if_pos hc, h.members host]
  · rw [if_neg hc, if_neg hc]

end Component.SameHosts

namespace Services

variable {s other : Services} {name : String}

/-- At most one component with a name has hosts. -/
def DeployedOnce (s : Services) (name : String) : Prop :=
  (s.components.filter fun c => c.name = name ∧ c.hosts ≠ []).length ≤ 1

theorem flatMap_filter_deployed (cs : List Component) (name : String) :
    (cs.filter fun c => c.name = name ∧ c.hosts ≠ []).flatMap (·.hosts) =
      cs.flatMap (·.hostsFor name) := by
  induction cs with
  | nil => rfl
  | cons c rest ih =>
    by_cases hname : c.name = name
    · by_cases hhosts : c.hosts = []
      · simpa [hname, hhosts, Component.hostsFor] using ih
      · simpa [hname, hhosts, Component.hostsFor] using ih
    · simpa [hname, Component.hostsFor] using ih

/-- Another order of the components is another order of what is listed for each name. -/
theorem perm_listedHosts (hperm : other.components.Perm s.components) (name : String) :
    (other.listedHosts name).Perm (s.listedHosts name) := by
  rw [listedHosts_eq_flatMap, listedHosts_eq_flatMap]
  exact hperm.flatMap_right _

theorem eq_of_perm_of_length_le_one {α : Type} {xs ys : List α} (hperm : xs.Perm ys)
    (hlength : ys.length ≤ 1) : xs = ys := by
  cases ys with
  | nil => exact hperm.eq_nil
  | cons y rest =>
    have hrest : rest.length ≤ 0 := Nat.le_of_succ_le_succ hlength
    obtain rfl : rest = [] := List.eq_nil_of_length_eq_zero (Nat.le_zero.mp hrest)
    exact List.perm_singleton.mp hperm

/-- The hosts of the name stand in one block, which no other order can split. -/
theorem DeployedOnce.listedHosts_eq (honce : s.DeployedOnce name)
    (hperm : other.components.Perm s.components) :
    other.listedHosts name = s.listedHosts name := by
  -- Components without hosts may well have moved past each other, but they add nothing.
  have hdeployed := hperm.filter fun c => c.name = name ∧ c.hosts ≠ []
  rw [listedHosts_eq_flatMap, listedHosts_eq_flatMap, ← flatMap_filter_deployed,
    ← flatMap_filter_deployed, eq_of_perm_of_length_le_one hdeployed honce]

theorem listedHosts_eq_of_sameHosts
    (hsame : List.Forall₂ Component.SameHosts s.components other.components)
    (hname : name ∉ neighbourComponents) : other.listedHosts name = s.listedHosts name := by
  rw [listedHosts_eq_flatMap, listedHosts_eq_flatMap]
  generalize s.components = cs, other.components = ds at hsame
  induction hsame with
  | nil => rfl
  | cons hcomponent _ ih =>
    rw [List.flatMap_cons, List.flatMap_cons, hcomponent.hostsFor_eq hname, ih]

theorem mem_listedHosts_of_sameHosts
    (hsame : List.Forall₂ Component.SameHosts s.components other.components) (name host : String) :
    host ∈ other.listedHosts name ↔ host ∈ s.listedHosts name := by
  rw [listedHosts_eq_flatMap, listedHosts_eq_flatMap]
  generalize s.components = cs, other.components = ds at hsame
  induction hsame with
  | nil => exact Iff.rfl
  | cons hcomponent _ ih =>
    rw [List.flatMap_cons, List.flatMap_cons, List.mem_append, List.mem_append,
      hcomponent.mem_hostsFor, ih]

end Services

/-- Of a neighbour the rules only ask whether a host is among its hosts, so order and repetition do
not count. -/
theorem Rules.Grows.of_mem_iff {hosts more : String → List String}
    (hfirst : ∀ name ∈ metronComponents, more name = hosts name)
    (hmembers : ∀ name ∈ neighbourComponents, ∀ host, host ∈ more name ↔ host ∈ hosts name) :
    Grows hosts more where
  first name hname := by rw [hfirst name hname]
  neighbours name hname host := (hmembers name hname host).mpr

namespace Request

variable {r : Request} {other : Services}

theorem validateConfigurations_withServices (settings : Settings)
    (hconfigurations : other.configurations = r.services.configurations)
    (hmembers : ∀ host, host ∈ other.listedHosts supervisor ↔
      host ∈ r.services.listedHosts supervisor) :
    (r.withServices other).answer settings .validateConfigurations =
      r.answer settings .validateConfigurations := by
  have hsupervisors : (other.listedHosts supervisor).toFinset =
      (r.services.listedHosts supervisor).toFinset := by
    ext host
    rw [List.mem_toFinset, List.mem_toFinset, hmembers host]
  have hdefaults : (r.withServices other).effectiveDefaults = r.effectiveDefaults := by
    unfold effectiveDefaults withServices
    rw [hconfigurations]
  have hagrees : r.AgreesOnStorm (r.withServices other) :=
    { current := congrArg (·.contains stormSite) hconfigurations
      defaults := congrArg (·.contains stormSite) hdefaults
      classpath := congrArg (·.property? stormSite topologyClasspath) hconfigurations
      ports := congrArg (·.property? stormSite supervisorPorts) hconfigurations
      supervisors := congrArg Finset.card hsupervisors }
  exact hagrees.answer_eq settings

theorem validateLayout_withServices (settings : Settings)
    (hfirst : ∀ name ∈ metronComponents, other.listedHosts name = r.services.listedHosts name)
    (hmembers : ∀ name ∈ neighbourComponents, ∀ host, host ∈ other.listedHosts name ↔
      host ∈ r.services.listedHosts name) :
    (r.withServices other).answer settings .validateLayout =
      r.answer settings .validateLayout :=
  Request.answer_validateLayout_congr settings (Grows.of_mem_iff hfirst hmembers)
    (Grows.of_mem_iff (fun name hname => (hfirst name hname).symm)
      fun name hname host => (hmembers name hname host).symm)

end Request

/-- Two clusters with the same configuration and the same components, in whatever order and under
whatever services, get the same answer from the check of configurations; and from the check of the
layout if none of the components of Metron is deployed twice. For the components of which some host
has to be near, the order of the hosts and their repetitions make no difference to either. -/
theorem validate_answers_rearranged (r : Request) (other : Services) (settings : Settings)
    (hconfigurations : other.configurations = r.services.configurations) :
    (other.components.Perm r.services.components →
      (r.withServices other).answer settings .validateConfigurations =
        r.answer settings .validateConfigurations ∧
      ((∀ name ∈ metronComponents, r.services.DeployedOnce name) →
        (r.withServices other).answer settings .validateLayout =
          r.answer settings .validateLayout)) ∧
    (List.Forall₂ Component.SameHosts r.services.components other.components →
      (r.withServices other).answer settings .validateConfigurations =
        r.answer settings .validateConfigurations ∧
      (r.withServices other).answer settings .validateLayout =
        r.answer settings .validateLayout) := by
  constructor
  · intro hperm
    have hmembers (name host : String) :
        host ∈ other.listedHosts name ↔ host ∈ r.services.listedHosts name :=
      (Services.perm_listedHosts hperm name).mem_iff
    constructor
    · exact Request.validateConfigurations_withServices settings hconfigurations
        (hmembers supervisor)
    · intro honce
      exact Request.validateLayout_withServices settings
        (fun name hname => (honce name hname).listedHosts_eq hperm) fun name _ => hmembers name
  · intro hsame
    have hmembers := Services.mem_listedHosts_of_sameHosts hsame
    have hfirst : ∀ name ∈ metronComponents, name ∉ neighbourComponents := by decide
    constructor
    · exact Request.validateConfigurations_withServices settings hconfigurations
        (hmembers supervisor)
    · exact Request.validateLayout_withServices settings
        (fun name hname => Services.listedHosts_eq_of_sameHosts hsame (hfirst name hname))
        fun name _ => hmembers name

/-- The components of the sparse cluster in another order, under two services of other names. -/
def regroupedCluster : Services where
  services :=
    [⟨"FIRST", [⟨supervisor, storm, ["node3"]⟩, ⟨metronMysql, metron, ["node1"]⟩,
      ⟨supervisor, storm, ["node2", "node3", "node2"]⟩, ⟨metronParsers, metron, ["node1"]⟩]⟩,
    ⟨"SECOND", [⟨metronIndexing, metron, ["node2", "node1"]⟩, ⟨stormUi, storm, ["node3"]⟩,
      ⟨metronEnrichment, metron, ["node1"]⟩]⟩]
  configurations := sparseCluster.configurations

/-- The sparse cluster with the hosts of the supervisors listed in another way. -/
def relistedCluster : Services where
  services :=
    [⟨metron, [⟨metronParsers, metron, ["node1"]⟩, ⟨metronEnrichment, metron, ["node1"]⟩,
      ⟨metronIndexing, metron, ["node2", "node1"]⟩, ⟨metronMysql, metron, ["node1"]⟩]⟩,
    ⟨storm, [⟨supervisor, storm, ["node3", "node2"]⟩, ⟨stormUi, storm, ["node3"]⟩,
      ⟨supervisor, storm, ["node3", "node3"]⟩]⟩]
  configurations := sparseCluster.configurations

theorem validate_answers_rearranged_of_sparseRequest :
    regroupedCluster.components.Perm sparseCluster.components ∧
      (∀ name ∈ metronComponents, sparseCluster.DeployedOnce name) ∧
      List.Forall₂ Component.SameHosts sparseCluster.components relistedCluster.components ∧
      ∀ services ∈ [regroupedCluster, relistedCluster],
        (sparseRequest.withServices services).answer Settings.default .validateConfigurations =
          sparseRequest.answer Settings.default .validateConfigurations ∧
        (sparseRequest.withServices services).answer Settings.default .validateLayout =
          sparseRequest.answer Settings.default .validateLayout := by
  have hperm : regroupedCluster.components.Perm sparseCluster.components := by decide
  have honce : ∀ name ∈ metronComponents, sparseCluster.DeployedOnce name := by
    unfold Services.DeployedOnce
    decide
  have hunchanged (c : Component) : c.SameHosts c := ⟨rfl, fun _ => rfl, fun _ => Iff.rfl⟩
  have hsame : List.Forall₂ Component.SameHosts sparseCluster.components
      relistedCluster.components := by
    refine .cons (hunchanged _) (.cons (hunchanged _) (.cons (hunchanged _) (.cons (hunchanged _)
      (.cons ⟨rfl, ?_, ?_⟩ (.cons (hunchanged _) (.cons ⟨rfl, ?_, ?_⟩ .nil))))))
    · intro hother
      exact absurd (by decide) hother
    · intro host
      simp [or_comm]
    · intro hother
      exact absurd (by decide) hother
    · intro host
      simp
  obtain ⟨hregrouped, _⟩ :=
    validate_answers_rearranged sparseRequest regroupedCluster Settings.default rfl
  obtain ⟨_, hrelisted⟩ :=
    validate_answers_rearranged sparseRequest relistedCluster Settings.default rfl
  obtain ⟨hconfigurations, hlayout⟩ := hregrouped hperm
  refine ⟨hperm, honce, hsame, ?_⟩
  simp only [List.forall_mem_cons]
  exact ⟨⟨hconfigurations, hlayout honce⟩, hrelisted hsame, fun _ h => absurd h List.not_mem_nil⟩

end ClusterAdvisor
