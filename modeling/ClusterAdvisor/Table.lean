/-!
Tables with text keys. A table keeps its entries by ascending key, in the order of code points, so
that equal contents are equal tables and every listing of a table is sorted.
-/

namespace ClusterAdvisor

/-- Entries by strictly ascending key; no key occurs twice. -/
def Ascending {α : Type} (entries : List (String × α)) : Prop :=
  entries.Pairwise fun a b => a.1 < b.1

/-- Puts an entry at its place; an entry with the same key is replaced. -/
def putEntry {α : Type} (key : String) (value : α) : List (String × α) → List (String × α)
  | [] => [(key, value)]
  | (k, v) :: rest =>
    if key < k then (key, value) :: (k, v) :: rest
    else if key = k then (key, value) :: rest
    else (k, v) :: putEntry key value rest

/-- Entries put one after the other, so that the last one with a key stays. -/
def sortEntries {α : Type} (entries : List (String × α)) : List (String × α) :=
  entries.foldl (fun sorted (key, value) => putEntry key value sorted) []

section putEntry

variable {α : Type} {key : String} {value : α} {entries : List (String × α)}

theorem mem_of_mem_putEntry {a : String × α} (h : a ∈ putEntry key value entries) :
    a = (key, value) ∨ a ∈ entries := by
  induction entries with
  | nil => simpa [putEntry] using h
  | cons head rest ih =>
    simp only [putEntry] at h
    split at h
    · simpa using h
    · split at h
      · simp only [List.mem_cons] at h ⊢
        exact h.imp id Or.inr
      · simp only [List.mem_cons] at h ⊢
        rcases h with h | h
        · exact .inr (.inl h)
        · exact (ih h).imp id Or.inr

theorem Ascending.putEntry (h : Ascending entries) : Ascending (putEntry key value entries) := by
  induction entries with
  | nil => simp [Ascending, ClusterAdvisor.putEntry]
  | cons head rest ih =>
    have hrest := List.pairwise_cons.1 h
    simp only [ClusterAdvisor.putEntry]
    split
    · rename_i hlt
      refine List.pairwise_cons.2 ⟨fun a ha => ?_, h⟩
      rcases List.mem_cons.1 ha with rfl | ha
      · exact hlt
      · exact String.lt_trans hlt (hrest.1 a ha)
    · rename_i hnot
      split
      · rename_i heq
        exact List.pairwise_cons.2 ⟨fun a ha => heq ▸ hrest.1 a ha, hrest.2⟩
      · rename_i hne
        refine List.pairwise_cons.2 ⟨fun a ha => ?_, ih hrest.2⟩
        rcases mem_of_mem_putEntry ha with rfl | ha
        · exact Std.lt_of_le_of_ne (String.not_lt.1 hnot) (Ne.symm hne)
        · exact hrest.1 a ha

theorem lookup_putEntry_self : (putEntry key value entries).lookup key = some value := by
  induction entries with
  | nil => simp [putEntry]
  | cons head rest ih =>
    obtain ⟨k, v⟩ := head
    simp only [putEntry]
    split
    · simp
    · split
      · simp
      · rename_i hne
        have hkey : (key == k) = false := by simpa using hne
        simp [List.lookup_cons, hkey, ih]

theorem lookup_putEntry_of_ne {other : String} (hne : other ≠ key) :
    (putEntry key value entries).lookup other = entries.lookup other := by
  have hkey : (other == key) = false := by simpa using hne
  induction entries with
  | nil => simp [putEntry, List.lookup_cons, hkey]
  | cons head rest ih =>
    obtain ⟨k, v⟩ := head
    simp only [putEntry]
    split
    · simp [List.lookup_cons, hkey]
    · split
      · rename_i heq
        subst heq
        simp [List.lookup_cons, hkey]
      · simp [List.lookup_cons, ih]

end putEntry

/-- A finite map from texts to values. -/
structure Table (α : Type) where
  entries : List (String × α)
  ascending : Ascending entries

namespace Table

variable {α β : Type}

@[ext] theorem ext {s t : Table α} (h : s.entries = t.entries) : s = t := by
  cases s
  cases t
  cases h
  rfl

instance [DecidableEq α] : DecidableEq (Table α) := fun s t =>
  decidable_of_iff (s.entries = t.entries) ⟨Table.ext, fun h => h ▸ rfl⟩

def empty : Table α := ⟨[], List.Pairwise.nil⟩

instance : EmptyCollection (Table α) := ⟨empty⟩
instance : Inhabited (Table α) := ⟨empty⟩

/-- Adds an entry; an entry with the same key is replaced. -/
def insert (t : Table α) (key : String) (value : α) : Table α :=
  ⟨putEntry key value t.entries, t.ascending.putEntry⟩

def get? (t : Table α) (key : String) : Option α := t.entries.lookup key

def contains (t : Table α) (key : String) : Bool := (t.get? key).isSome

def keys (t : Table α) : List String := t.entries.map (·.1)

def isEmpty (t : Table α) : Bool := t.entries.isEmpty

/-- The table of a list of entries; of two entries with one key the later one stays. -/
def ofList (entries : List (String × α)) : Table α :=
  entries.foldl (fun t (key, value) => t.insert key value) ∅

def map (f : α → β) (t : Table α) : Table β :=
  ⟨t.entries.map fun (key, value) => (key, f value),
    by simpa [Ascending, List.pairwise_map] using t.ascending⟩

@[simp] theorem get?_insert_self (t : Table α) (key : String) (value : α) :
    (t.insert key value).get? key = some value :=
  lookup_putEntry_self

theorem get?_insert_of_ne (t : Table α) {key other : String} (value : α) (h : other ≠ key) :
    (t.insert key value).get? other = t.get? other :=
  lookup_putEntry_of_ne h

end Table

end ClusterAdvisor
