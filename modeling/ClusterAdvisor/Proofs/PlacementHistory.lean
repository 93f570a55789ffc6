import Mathlib.Data.Set.Card
import ClusterAdvisor.Proofs.Assignments
import ClusterAdvisor.Proofs.ListedHosts
import ClusterAdvisor.Proofs.SchemaRoundTrip

/-!
A placement and what is recorded in it, one component after the other. Only the last recording of a
component counts, and a component that was recorded once is never forgotten. All that can be asked
of a placement follows from the hosts of its components, and its document gives it back.
-/

namespace ClusterAdvisor

open Json

def codePoints (s : String) : List Nat := s.toList.map Char.toNat

/-- Texts are compared by their code points, and not by the rules of any alphabet. -/
theorem codePoints_lt {s t : String} (h : s < t) : codePoints s < codePoints t := by
  refine List.map_lt ?_ (String.lt_iff.mp h)
  intro c d hlt
  exact UInt32.lt_iff_toNat_lt.mp hlt

namespace Table

variable {α : Type} {t : Table α}

theorem mem_keys_iff {key : String} : key ∈ t.keys ↔ t.contains key = true := by
  rw [contains, Option.isSome_iff_exists, get?, keys, List.mem_map]
  simp only [lookup_eq_some_iff_mem t.ascending.nodup_keysOf]
  constructor
  · rintro ⟨⟨_, value⟩, hentry, rfl⟩
    exact ⟨value, hentry⟩
  · rintro ⟨value, hentry⟩
    exact ⟨(key, value), hentry, rfl⟩

theorem keys_eq_nil_iff : t.keys = [] ↔ t.isEmpty = true := by
  rw [keys, isEmpty, List.map_eq_nil_iff, List.isEmpty_iff]

end Table

namespace Placement

abbrev Recording := String × List String

/-- The placement behind several recordings. Whether they build it up or change it in place makes no
difference: each of them is an `insert`. -/
def insertAll (p : Placement) (recordings : List Recording) : Placement :=
  recordings.foldl (fun p r => p.insert r.1 r.2) p

variable {p : Placement} {recordings : List Recording} {component : String}

/-- A history may be cut anywhere; the second part starts from what the first has left. -/
theorem insertAll_append (p : Placement) (first second : List Recording) :
    p.insertAll (first ++ second) = (p.insertAll first).insertAll second :=
  List.foldl_append

theorem mem_componentNames_insert {name : String} {hosts : List String} :
    component ∈ (p.insert name hosts).componentNames ↔
      component = name ∨ component ∈ p.componentNames := by
  rw [componentNames, componentNames, Table.mem_keys_iff, Table.mem_keys_iff]
  exact p.components.contains_insert name component hosts

/-- Recordings of other components leave the hosts of a component alone. -/
theorem hosts_insertAll_of_forall_ne (h : ∀ r ∈ recordings, r.1 ≠ component) :
    (p.insertAll recordings).hosts component = p.hosts component := by
  induction recordings generalizing p with
  | nil => rfl
  | cons r rest ih =>
    obtain ⟨hfirst, hrest⟩ := List.forall_mem_cons.mp h
    rw [insertAll, List.foldl_cons, ← insertAll, ih hrest]
    exact p.hosts_insert_of_ne r.2 hfirst.symm

/-- The last recording of a component counts, as those behind it are about others. -/
theorem hosts_insertAll_last {before after : List Recording} {hosts : List String}
    (h : ∀ r ∈ after, r.1 ≠ component) :
    (p.insertAll (before ++ (component, hosts) :: after)).hosts component = hosts := by
  rw [insertAll_append, insertAll, List.foldl_cons, ← insertAll, hosts_insertAll_of_forall_ne h]
  exact hosts_insert_self _ component hosts

/-- A name that was recorded stays recorded, even if its last recording has no hosts. -/
theorem mem_componentNames_insertAll :
    component ∈ (p.insertAll recordings).componentNames ↔
      component ∈ p.componentNames ∨ ∃ hosts, (component, hosts) ∈ recordings := by
  induction recordings generalizing p with
  | nil => simp [insertAll]
  | cons r rest ih =>
    obtain ⟨name, hosts⟩ := r
    rw [insertAll, List.foldl_cons, ← insertAll, ih, mem_componentNames_insert]
    constructor
    · rintro ((rfl | hbefore) | ⟨others, hothers⟩)
      · exact Or.inr ⟨hosts, List.mem_cons_self⟩
      · exact Or.inl hbefore
      · exact Or.inr ⟨others, List.mem_cons_of_mem _ hothers⟩
    · rintro (hbefore | ⟨others, hothers⟩)
      · exact Or.inl (Or.inr hbefore)
      · rcases List.mem_cons.mp hothers with heq | hrest
        · obtain ⟨rfl, rfl⟩ := Prod.mk.inj heq
          exact Or.inl (Or.inl rfl)
        · exact Or.inr ⟨others, hrest⟩

theorem hosts_of_notMem (h : component ∉ p.componentNames) : p.hosts component = [] := by
  rw [componentNames, Table.mem_keys_iff, Table.contains, Bool.not_eq_true,
    Option.isSome_eq_false_iff, Option.isNone_iff_eq_none] at h
  rw [hosts, h, Option.getD_none]

theorem distinctHostCount_eq_ncard (p : Placement) (component : String) :
    p.distinctHostCount component = {host | p.runsOn component host = true}.ncard := by
  have hmembers : {host | p.runsOn component host = true} =
      ((p.hosts component).toFinset : Set String) := by
    ext host
    simp [runsOn_iff]
  rw [hmembers, Set.ncard_coe_finset, distinctHostCount_eq_card]

theorem distinctHostCount_eq_length_iff :
    p.distinctHostCount component = (p.hosts component).length ↔ (p.hosts component).Nodup := by
  rw [distinctHostCount_eq_card]
  exact Multiset.toFinset_card_eq_card_iff_nodup

/-- Hosts in another order, or repeated, count as before. -/
theorem distinctHostCount_insert {hosts : List String}
    (h : ∀ host, host ∈ hosts ↔ host ∈ p.hosts component) :
    (p.insert component hosts).distinctHostCount component = p.distinctHostCount component := by
  rw [distinctHostCount_eq_card, distinctHostCount_eq_card, hosts_insert_self]
  congr 1
  ext host
  rw [List.mem_toFinset, List.mem_toFinset, h]

theorem isEmpty_iff : p.isEmpty = true ↔ ∀ component, component ∉ p.componentNames := by
  rw [isEmpty, ← Table.keys_eq_nil_iff, ← componentNames, List.eq_nil_iff_forall_not_mem]

/-- The order of the names tells nothing about the order of the recordings. -/
theorem ascending_componentNames (p : Placement) :
    (p.componentNames.map codePoints).Pairwise (· < ·) := by
  rw [componentNames, Table.keys, List.map_map, List.pairwise_map]
  exact p.components.ascending.imp codePoints_lt

/-- Around the hosts stand the brackets of their list, and the braces of all components and of the
document. -/
theorem depth_toValue_le (p : Placement) : (schema.toValue p).depth ≤ 3 := by
  refine Value.depth_object_le_iff.mpr fun m hm => ?_
  obtain rfl := List.mem_singleton.mp hm
  refine Value.depth_object_le_iff.mpr fun m hm => ?_
  obtain ⟨entry, _, rfl⟩ := List.mem_map.mp hm
  exact Schema.depth_texts_le entry.2

theorem ofText_toValue (p : Placement) {text : String}
    (htext : text ∈ [(schema.toValue p).compact, (schema.toValue p).pretty]) :
    schema.ofText text = .ok p := by
  have hreturns : schema.Returns p := by
    simp [schema, Schema.Returns, Fields.Returns, Fields.keys]
  have hdepth : (schema.toValue p).depth ≤ depthLimit :=
    Nat.le_trans p.depth_toValue_le (by decide)
  exact schema.ofText_toValue hreturns hdepth htext

/-- What a placement shows after some recordings. -/
structure LastRecordingCounts (initial : Placement) (recordings : List Recording)
    (reached : Placement) : Prop where
  recorded : ∀ before component hosts after, recordings = before ++ (component, hosts) :: after →
    (∀ r ∈ after, r.1 ≠ component) → reached.hosts component = hosts
  unrecorded : ∀ component, (∀ r ∈ recordings, r.1 ≠ component) →
    reached.hosts component = initial.hosts component
  unknown : ∀ component, component ∉ reached.componentNames → reached.hosts component = []
  firstHost : ∀ component, reached.firstHost? component = (reached.hosts component).head?
  runsOn : ∀ component host,
    reached.runsOn component host = true ↔ host ∈ reached.hosts component
  distinct : ∀ component,
    reached.distinctHostCount component = {host | reached.runsOn component host = true}.ncard
  rearranged : ∀ component hosts, (∀ host, host ∈ hosts ↔ host ∈ reached.hosts component) →
    (reached.insert component hosts).distinctHostCount component =
      reached.distinctHostCount component
  nodup : ∀ component,
    reached.distinctHostCount component = (reached.hosts component).length ↔
      (reached.hosts component).Nodup
  names : ∀ component, component ∈ reached.componentNames ↔
    component ∈ initial.componentNames ∨ ∃ hosts, (component, hosts) ∈ recordings
  ascending : (reached.componentNames.map codePoints).Pairwise (· < ·)
  isEmpty : reached.isEmpty = true ↔ ∀ component, component ∉ reached.componentNames
  readBack : ∀ text ∈ [(schema.toValue reached).compact, (schema.toValue reached).pretty],
    schema.ofText text = .ok reached

/-- Whatever is recorded, the last recording of a component counts. -/
theorem placement_history (initial : Placement) (recordings : List Recording) :
    LastRecordingCounts initial recordings (initial.insertAll recordings) where
  recorded := by
    rintro before component hosts after rfl hafter
    exact hosts_insertAll_last hafter
  unrecorded := fun _ => hosts_insertAll_of_forall_ne
  unknown := fun _ => hosts_of_notMem
  firstHost := fun _ => rfl
  runsOn := fun _ _ => runsOn_iff
  distinct := distinctHostCount_eq_ncard _
  rearranged := fun _ _ => distinctHostCount_insert
  nodup := fun _ => distinctHostCount_eq_length_iff
  names := fun _ => mem_componentNames_insertAll
  ascending := ascending_componentNames _
  isEmpty := isEmpty_iff
  readBack := fun _ => ofText_toValue _

/-- The hosts of the first recording are replaced, and one of the second is named twice. -/
example :
    (empty.insertAll [("SUPERVISOR", ["node4"]), ("KAFKA_BROKER", []),
      ("SUPERVISOR", ["node1", "node2", "node1"])]).distinctHostCount "SUPERVISOR" = 2 := by
  decide

end Placement

end ClusterAdvisor
