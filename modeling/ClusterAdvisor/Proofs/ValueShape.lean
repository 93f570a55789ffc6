import ClusterAdvisor.Json.Value
import Mathlib.Data.List.Perm.Basic
import Mathlib.Data.List.Nodup

/-!
Values as trees: their parts, how deep they go, and their sorted form. A tree may list the members of
an object in any order and name a key twice, as a document can; the sorted form is what reading the
document leaves of it.
-/

namespace ClusterAdvisor

def keysOf {α : Type} (entries : List (String × α)) : List String := entries.map (·.1)

section sortEntries

variable {α : Type} {entries sorted : List (String × α)}

theorem perm_putEntry {key : String} {value : α} (hnew : key ∉ keysOf entries) :
    (putEntry key value entries).Perm ((key, value) :: entries) := by
  induction entries with
  | nil => exact .refl _
  | cons head rest ih =>
    obtain ⟨k, v⟩ := head
    simp only [keysOf, List.map_cons, List.mem_cons, not_or] at hnew
    simp only [putEntry, if_neg hnew.1]
    split
    · exact .refl _
    · exact ((ih hnew.2).cons _).trans (.swap _ _ _)

/-- Stated with entries that are sorted already, so that the induction can go on from them. -/
theorem perm_foldl_putEntry (hnodup : (keysOf (sorted ++ entries)).Nodup) :
    (entries.foldl (fun sorted (key, value) => putEntry key value sorted) sorted).Perm
      (sorted ++ entries) := by
  induction entries generalizing sorted with
  | nil => rw [List.append_nil]; exact .refl _
  | cons head rest ih =>
    obtain ⟨key, value⟩ := head
    have hmiddle : (sorted ++ (key, value) :: rest).Perm ((key, value) :: (sorted ++ rest)) :=
      List.perm_middle
    have hmoved : (keysOf ((key, value) :: (sorted ++ rest))).Nodup :=
      (hmiddle.map Prod.fst).nodup hnodup
    obtain ⟨hnew, hothers⟩ := List.nodup_cons.mp hmoved
    have hput : (putEntry key value sorted).Perm ((key, value) :: sorted) := by
      apply perm_putEntry
      intro hkey
      exact hnew (by simpa [keysOf] using Or.inl (by simpa [keysOf] using hkey))
    have hput' : (putEntry key value sorted ++ rest).Perm ((key, value) :: (sorted ++ rest)) :=
      hput.append_right rest
    refine ((ih ?_).trans hput').trans hmiddle.symm
    exact (hput'.symm.map Prod.fst).nodup hmoved

/-- Entries with different keys are only put in order. -/
theorem perm_sortEntries (hnodup : (keysOf entries).Nodup) :
    (sortEntries entries).Perm entries :=
  perm_foldl_putEntry hnodup

theorem ascending_sortEntries (entries : List (String × α)) : Ascending (sortEntries entries) := by
  have hfold : ∀ sorted : List (String × α), Ascending sorted →
      Ascending (entries.foldl (fun sorted (key, value) => putEntry key value sorted) sorted) := by
    induction entries with
    | nil => exact fun _ h => h
    | cons head rest ih => exact fun sorted h => ih _ h.putEntry
  exact hfold [] List.Pairwise.nil

theorem mem_of_mem_sortEntries {a : String × α} (h : a ∈ sortEntries entries) : a ∈ entries := by
  have hfold : ∀ sorted : List (String × α),
      a ∈ entries.foldl (fun sorted (key, value) => putEntry key value sorted) sorted →
        a ∈ sorted ∨ a ∈ entries := by
    clear h
    induction entries with
    | nil => exact fun _ h => Or.inl h
    | cons head rest ih =>
      intro sorted h
      rcases ih _ h with hput | hrest
      · rcases mem_of_mem_putEntry hput with rfl | hsorted
        · exact Or.inr List.mem_cons_self
        · exact Or.inl hsorted
      · exact Or.inr (List.mem_cons_of_mem _ hrest)
  exact (hfold [] h).resolve_left List.not_mem_nil

theorem Ascending.nodup_keysOf (h : Ascending entries) : (keysOf entries).Nodup := by
  unfold keysOf
  rw [List.Nodup, List.pairwise_map]
  exact List.Pairwise.imp (fun hlt => Std.ne_of_lt hlt) h

theorem Ascending.eq_of_perm (h : Ascending entries) (hsorted : Ascending sorted)
    (hperm : entries.Perm sorted) : entries = sorted :=
  hperm.eq_of_pairwise (fun _ _ _ _ hab hba => absurd (String.lt_trans hab hba) (String.lt_irrefl _))
    h hsorted

theorem sortEntries_eq_self (h : Ascending entries) : sortEntries entries = entries :=
  (ascending_sortEntries entries).eq_of_perm h (perm_sortEntries h.nodup_keysOf)

theorem lookup_eq_some_iff_mem (hnodup : (keysOf entries).Nodup) {key : String} {value : α} :
    entries.lookup key = some value ↔ (key, value) ∈ entries := by
  induction entries with
  | nil => simp
  | cons head rest ih =>
    obtain ⟨k, v⟩ := head
    obtain ⟨hnew, hrest⟩ := List.nodup_cons.mp hnodup
    by_cases heq : key = k
    · subst heq
      have hother : (key, value) ∉ rest := fun hmem => hnew (List.mem_map.mpr ⟨_, hmem, rfl⟩)
      simp [hother, eq_comm]
    · have hkey : (key == k) = false := by simpa using heq
      simp [List.lookup_cons, hkey, ih hrest, heq]

/-- Ascending entries are determined by what is looked up in them. -/
theorem Ascending.eq_of_lookup (h : Ascending entries) (hsorted : Ascending sorted)
    (hlookup : ∀ key, entries.lookup key = sorted.lookup key) : entries = sorted := by
  refine h.eq_of_perm hsorted ((List.perm_ext_iff_of_nodup ?_ ?_).mpr ?_)
  · exact h.nodup_keysOf.of_map _
  · exact hsorted.nodup_keysOf.of_map _
  · rintro ⟨key, value⟩
    rw [← lookup_eq_some_iff_mem h.nodup_keysOf, hlookup, lookup_eq_some_iff_mem hsorted.nodup_keysOf]

end sortEntries

namespace Table

variable {α : Type}

theorem ext_get? {s t : Table α} (h : ∀ key, s.get? key = t.get? key) : s = t :=
  Table.ext (s.ascending.eq_of_lookup t.ascending h)

/-- A table is determined by what can be looked up in it, so the order of the two does not show. -/
theorem insert_comm (t : Table α) {key other : String} (a b : α) (hne : key ≠ other) :
    (t.insert key a).insert other b = (t.insert other b).insert key a := by
  refine ext_get? fun k => ?_
  by_cases hother : k = other
  · subst hother
    rw [get?_insert_self, get?_insert_of_ne _ _ hne.symm, get?_insert_self]
  · rw [get?_insert_of_ne _ _ hother]
    by_cases hkey : k = key
    · subst hkey
      rw [get?_insert_self, get?_insert_self]
    · rw [get?_insert_of_ne _ _ hkey, get?_insert_of_ne _ _ hkey, get?_insert_of_ne _ _ hother]

end Table

namespace Json

namespace Value

/-- One value within another: the value itself, or a part of an item or of a member. -/
inductive Within : Value → Value → Prop where
  | self (v : Value) : Within v v
  | item {v item : Value} {items : List Value} (hitem : item ∈ items) (h : Within v item) :
      Within v (.array items)
  | member {v content : Value} {key : String} {members : List (String × Value)}
      (hmember : (key, content) ∈ members) (h : Within v content) : Within v (.object members)

def IsPlain : Value → Prop
  | .array _ | .object _ => False
  | _ => True

/-- No object names a key twice. -/
def DistinctKeys (v : Value) : Prop :=
  ∀ members, Within (.object members) v → (keysOf members).Nodup

/-- Every number is an integer of 64 bits. -/
def HoldsNoReal (v : Value) : Prop := ∀ x, ¬ Within (.real x) v

mutual

/-- How many arrays and objects are open at once where most are. -/
def depth : Value → Nat
  | .array items => depthItems items + 1
  | .object members => depthMembers members + 1
  | _ => 0

def depthItems : List Value → Nat
  | [] => 0
  | v :: rest => max v.depth (depthItems rest)

def depthMembers : List (String × Value) → Nat
  | [] => 0
  | (_, v) :: rest => max v.depth (depthMembers rest)

end

mutual

/-- The value with the members of every object sorted; of two members with one key the later one
stays. -/
def sorted : Value → Value
  | .array items => .array (sortedItems items)
  | .object members => ofMembers (sortedMembers members)
  | v => v

def sortedItems : List Value → List Value
  | [] => []
  | v :: rest => v.sorted :: sortedItems rest

def sortedMembers : List (String × Value) → List (String × Value)
  | [] => []
  | (key, v) :: rest => (key, v.sorted) :: sortedMembers rest

end

/-- Induction over the parts of a value. -/
theorem induction {P : Value → Prop} (null : P .null) (bool : ∀ b, P (.bool b))
    (integer : ∀ n, P (.integer n)) (real : ∀ x, P (.real x)) (text : ∀ s, P (.text s))
    (array : ∀ items, (∀ v ∈ items, P v) → P (.array items))
    (object : ∀ members, (∀ m ∈ members, P m.2) → P (.object members)) (v : Value) : P v :=
  @Value.rec P (fun items => ∀ v ∈ items, P v) (fun members => ∀ m ∈ members, P m.2)
    (fun m => P m.2) null bool integer real text (fun items h => array items h)
    (fun members h => object members h) (fun _ h => absurd h List.not_mem_nil)
    (fun _ _ hfirst hrest _ h => (List.mem_cons.mp h).elim (fun heq => heq ▸ hfirst) (hrest _))
    (fun _ h => absurd h List.not_mem_nil)
    (fun _ _ hfirst hrest _ h => (List.mem_cons.mp h).elim (fun heq => heq ▸ hfirst) (hrest _))
    (fun _ _ h => h) v

variable {items : List Value} {members : List (String × Value)} {v : Value} {n : Nat}

theorem IsPlain.depth_eq (h : v.IsPlain) : v.depth = 0 := by
  cases v with
  | array items => exact h.elim
  | object members => exact h.elim
  | _ => rfl

theorem IsPlain.sorted_eq (h : v.IsPlain) : v.sorted = v := by
  cases v with
  | array items => exact h.elim
  | object members => exact h.elim
  | _ => rfl

theorem depthItems_le_iff : depthItems items ≤ n ↔ ∀ v ∈ items, v.depth ≤ n := by
  induction items with
  | nil => simp [depthItems]
  | cons v rest ih => rw [depthItems, Nat.max_le, ih, List.forall_mem_cons]

theorem depthMembers_le_iff : depthMembers members ≤ n ↔ ∀ m ∈ members, m.2.depth ≤ n := by
  induction members with
  | nil => simp [depthMembers]
  | cons m rest ih =>
    obtain ⟨key, v⟩ := m
    rw [depthMembers, Nat.max_le, ih, List.forall_mem_cons]

theorem depth_array_le_iff : (Value.array items).depth ≤ n + 1 ↔ ∀ v ∈ items, v.depth ≤ n := by
  rw [depth, Nat.add_le_add_iff_right, depthItems_le_iff]

theorem depth_object_le_iff :
    (Value.object members).depth ≤ n + 1 ↔ ∀ m ∈ members, m.2.depth ≤ n := by
  rw [depth, Nat.add_le_add_iff_right, depthMembers_le_iff]

@[simp] theorem sorted_array (items : List Value) :
    (Value.array items).sorted = .array (items.map sorted) := by
  have hitems : sortedItems items = items.map sorted := by
    induction items with
    | nil => rfl
    | cons v rest ih => rw [sortedItems, ih, List.map_cons]
  rw [sorted, hitems]

@[simp] theorem sorted_object (members : List (String × Value)) :
    (Value.object members).sorted = ofMembers (members.map fun m => (m.1, m.2.sorted)) := by
  have hmembers : sortedMembers members = members.map fun m => (m.1, m.2.sorted) := by
    induction members with
    | nil => rfl
    | cons m rest ih =>
      obtain ⟨key, v⟩ := m
      rw [sortedMembers, ih, List.map_cons]
  rw [sorted, hmembers]

theorem DistinctKeys.item (h : (Value.array items).DistinctKeys) (hitem : v ∈ items) :
    v.DistinctKeys :=
  fun members hwithin => h members (.item hitem hwithin)

theorem DistinctKeys.member {key : String} (h : (Value.object members).DistinctKeys)
    (hmember : (key, v) ∈ members) : v.DistinctKeys :=
  fun inner hwithin => h inner (.member hmember hwithin)

theorem HoldsNoReal.item (h : (Value.array items).HoldsNoReal) (hitem : v ∈ items) :
    v.HoldsNoReal :=
  fun x hwithin => h x (.item hitem hwithin)

theorem HoldsNoReal.member {key : String} (h : (Value.object members).HoldsNoReal)
    (hmember : (key, v) ∈ members) : v.HoldsNoReal :=
  fun x hwithin => h x (.member hmember hwithin)

/-- Sorting once is enough, at every level. -/
theorem sorted_sorted (v : Value) : v.sorted.sorted = v.sorted := by
  induction v using Value.induction with
  | null => rfl
  | bool b => rfl
  | integer n => rfl
  | real x => rfl
  | text s => rfl
  | array items ih =>
    rw [sorted_array, sorted_array, List.map_map]
    exact congrArg Value.array (List.map_congr_left ih)
  | object members ih =>
    have hmembers : ∀ m ∈ sortEntries (members.map fun m => (m.1, m.2.sorted)),
        (m.1, m.2.sorted) = m := by
      intro m hm
      obtain ⟨first, hfirst, rfl⟩ := List.mem_map.mp (mem_of_mem_sortEntries hm)
      exact congrArg (Prod.mk first.1) (ih first hfirst)
    rw [sorted_object, ofMembers, sorted_object, List.map_congr_left hmembers, List.map_id',
      ofMembers, sortEntries_eq_self (ascending_sortEntries _)]

end Value

end Json

end ClusterAdvisor
