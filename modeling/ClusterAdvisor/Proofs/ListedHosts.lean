import Mathlib.Data.Finset.Card
import Mathlib.Data.Finset.Dedup
import ClusterAdvisor.Request

/-!
Where the documents say that a component runs, and what a placement keeps of that. The rules never
see the services themselves but a table that is gathered from them, one entry per component; for
every component that a rule asks for, the table gives back what the services list, in their order.
-/

namespace ClusterAdvisor

open Rules

/-- What a component contributes to the hosts of the components with a name. -/
def Component.hostsFor (c : Component) (name : String) : List String :=
  if c.name = name then c.hosts else []

/-- The hosts of the components with a name, service by service, and in each service component by
component. -/
def Services.listedHosts (s : Services) (name : String) : List String :=
  s.services.flatMap fun service => service.components.flatMap (·.hostsFor name)

theorem flatMap_filter_name (cs : List Component) (name : String) :
    (cs.filter (·.name = name)).flatMap (·.hosts) = cs.flatMap (·.hostsFor name) := by
  induction cs with
  | nil => rfl
  | cons c rest ih =>
    by_cases hname : c.name = name
    · simp [hname, Component.hostsFor, ih]
    · simp [hname, Component.hostsFor, ih]

/-- How the components are grouped into services makes no difference for the lookup. -/
theorem Services.listedHosts_eq_flatMap (s : Services) (name : String) :
    s.listedHosts name = s.components.flatMap (·.hostsFor name) := by
  rw [Services.components, List.flatMap_assoc]
  rfl

theorem Services.hostsOf_eq_listedHosts (s : Services) (name : String) :
    s.hostsOf name = s.listedHosts name := by
  rw [Services.hostsOf, flatMap_filter_name, ← Services.listedHosts_eq_flatMap]

theorem nodup_eraseDups (hosts : List String) : hosts.eraseDups.Nodup := by
  cases hosts with
  | nil => simp
  | cons host rest =>
    rw [List.eraseDups_cons]
    refine List.nodup_cons.mpr ⟨?_, nodup_eraseDups _⟩
    -- The rest is rid of the first host before it is rid of its own repetitions.
    intro hmember
    have hkept := (List.mem_filter.mp (List.mem_eraseDups.mp hmember)).2
    simp at hkept
termination_by hosts.length
decreasing_by exact Nat.lt_succ_of_le (List.length_filter_le _ rest)

namespace Placement

variable {p : Placement}

@[simp] theorem hosts_insert_self (p : Placement) (name : String) (hosts : List String) :
    (p.insert name hosts).hosts name = hosts := by
  simp [insert, Placement.hosts]

theorem hosts_insert_of_ne (p : Placement) {name other : String} (hosts : List String)
    (hne : other ≠ name) : (p.insert name hosts).hosts other = p.hosts other := by
  simp [insert, Placement.hosts, Table.get?_insert_of_ne p.components hosts hne]

/-- Recording never mixes up two components, so an entry is what was recorded for it, however many
others are recorded before or behind it. -/
theorem hosts_foldl_insert (hostsOf : String → List String) (names : List String) (p : Placement)
    (name : String) :
    (names.foldl (fun p name => p.insert name (hostsOf name)) p).hosts name =
      if name ∈ names then hostsOf name else p.hosts name := by
  induction names generalizing p with
  | nil => simp
  | cons first rest ih =>
    rw [List.foldl_cons, ih]
    by_cases hrest : name ∈ rest
    · simp [hrest]
    · by_cases hfirst : name = first
      · subst hfirst
        simp [hrest]
      · simp [hrest, hfirst, hosts_insert_of_ne p (hostsOf first) hfirst]

/-- A placement shows what the services list, for each name that it was made for. -/
theorem hosts_ofServices (s : Services) {names : List String} {name : String}
    (hname : name ∈ names) : (ofServices s names).hosts name = s.listedHosts name := by
  rw [ofServices, hosts_foldl_insert s.hostsOf names empty name, if_pos hname,
    Services.hostsOf_eq_listedHosts]

theorem runsOn_iff {name host : String} : p.runsOn name host = true ↔ host ∈ p.hosts name := by
  simp [runsOn]

/-- Hosts are counted as a set. -/
theorem distinctHostCount_eq_card (p : Placement) (name : String) :
    p.distinctHostCount name = (p.hosts name).toFinset.card := by
  have hsame : (p.hosts name).eraseDups.toFinset = (p.hosts name).toFinset := by
    ext host
    simp
  rw [distinctHostCount, ← hsame, List.toFinset_card_of_nodup (nodup_eraseDups _)]

end Placement

theorem Request.hosts_placement (r : Request) {name : String} (hname : name ∈ layoutComponents) :
    r.placement.hosts name = r.services.listedHosts name :=
  Placement.hosts_ofServices r.services hname

end ClusterAdvisor
