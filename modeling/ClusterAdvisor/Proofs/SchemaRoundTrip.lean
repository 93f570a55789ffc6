import ClusterAdvisor.Proofs.Printing
import ClusterAdvisor.Proofs.SchemaReading

/-!
Writing a document of a type and reading it back. Every type gives back what it wrote, provided that
its open parts do: the values that are taken as they come, and the conversions around a record.
-/

namespace ClusterAdvisor.Json

/-- No object names a key twice, and no number is real. -/
structure Value.Tidy (v : Value) : Prop where
  distinct : v.DistinctKeys
  noReal : v.HoldsNoReal

namespace Value

theorem tidy_of_isPlain {v : Value} (hplain : v.IsPlain) (hreal : ∀ x, v ≠ .real x) : v.Tidy := by
  constructor
  · intro members hmembers
    cases hmembers with
    | self => exact hplain.elim
    | item => exact hplain.elim
    | member => exact hplain.elim
  · intro x hx
    cases hx with
    | self => exact hreal x rfl
    | item => exact hplain.elim
    | member => exact hplain.elim

theorem tidy_text (s : String) : (Value.text s).Tidy :=
  tidy_of_isPlain trivial fun x h => by cases h

theorem tidy_array_iff {items : List Value} : (Value.array items).Tidy ↔ ∀ v ∈ items, v.Tidy := by
  constructor
  · exact fun h v hv => ⟨h.distinct.item hv, h.noReal.item hv⟩
  · intro h
    constructor
    · intro members hmembers
      cases hmembers with
      | item hitem hwithin => exact (h _ hitem).distinct members hwithin
    · intro x hx
      cases hx with
      | item hitem hwithin => exact (h _ hitem).noReal x hwithin

theorem holdsNoReal_object {members : List (String × Value)}
    (h : ∀ m ∈ members, m.2.HoldsNoReal) : (Value.object members).HoldsNoReal := by
  intro x hx
  cases hx with
  | member hmember hwithin => exact h _ hmember x hwithin

theorem tidy_object_iff {members : List (String × Value)} :
    (Value.object members).Tidy ↔ (keysOf members).Nodup ∧ ∀ m ∈ members, m.2.Tidy := by
  constructor
  · exact fun h => ⟨h.distinct members (.self _),
      fun m hm => ⟨h.distinct.member hm, h.noReal.member hm⟩⟩
  · rintro ⟨hnodup, h⟩
    refine ⟨?_, holdsNoReal_object fun m hm => (h m hm).noReal⟩
    intro inner hinner
    cases hinner with
    | self => exact hnodup
    | member hmember hwithin => exact (h _ hmember).distinct inner hwithin

/-- Sorted objects name every key once. -/
theorem distinctKeys_sorted (v : Value) : v.sorted.DistinctKeys := by
  induction v using Value.induction with
  | array items ih =>
    rw [sorted_array]
    intro members hmembers
    cases hmembers with
    | item hitem hwithin =>
      obtain ⟨v, hv, rfl⟩ := List.mem_map.mp hitem
      exact ih v hv members hwithin
  | object entries ih =>
    rw [sorted_object, ofMembers]
    intro members hmembers
    cases hmembers with
    | self => exact (ascending_sortEntries _).nodup_keysOf
    | member hmember hwithin =>
      obtain ⟨m, hm, heq⟩ := List.mem_map.mp (mem_of_mem_sortEntries hmember)
      cases heq
      exact ih m hm members hwithin
  | _ => rintro members ⟨⟩

end Value

def Fields.keys : {σ α : Type} → Fields σ α → List String
  | _, _, .nil => []
  | _, _, .cons key _ _ rest => key :: rest.keys

mutual

/-- The open parts of what is written come back as they were. -/
def Schema.Returns : {α : Type} → Schema α → α → Prop
  | _, .text, _ => True
  | _, .list item, as => ∀ a ∈ as, item.Returns a
  | _, .table item, t => ∀ m ∈ t.entries, item.Returns m.2
  | _, .record _ fields make split, b =>
    make (split b) = b ∧ fields.keys.Nodup ∧ fields.Returns (split b)
  | _, .any ofValue toValue, a =>
    ofValue (toValue a) = a ∧ (toValue a).sorted = toValue a ∧ (toValue a).HoldsNoReal
  | _, .choice variants name, a => variants.lookup (name a) = some a

def Fields.Returns : {σ α : Type} → Fields σ α → α → Prop
  | _, _, .nil, _ => True
  | _, _, .cons _ item _ rest, (a, others) => item.Returns a ∧ rest.Returns others

end

/-! ### What is written -/

theorem Fields.keysOf_toMembers : {σ α : Type} → (fields : Fields σ α) → (a : α) →
    keysOf (fields.toMembers a) = fields.keys
  | _, _, .nil, _ => rfl
  | _, _, .cons key _ _ rest, (_, others) => by
    rw [Fields.toMembers, Fields.keys, ← rest.keysOf_toMembers others]
    rfl

mutual

/-- Records name each of their keys once and tables are ascending, so only the open parts need a
condition. -/
theorem Schema.tidy_toValue : {α : Type} → (schema : Schema α) → {a : α} → schema.Returns a →
    (schema.toValue a).Tidy
  | _, .text, s, _ => Value.tidy_text s
  | _, .list item, as, h => by
    rw [Schema.Returns] at h
    rw [Schema.toValue]
    rw [Value.tidy_array_iff]
    intro v hv
    obtain ⟨a, ha, rfl⟩ := List.mem_map.mp hv
    exact item.tidy_toValue (h a ha)
  | _, .table item, t, h => by
    rw [Schema.Returns] at h
    rw [Schema.toValue]
    refine Value.tidy_object_iff.mpr ⟨?_, ?_⟩
    · have hkeys := t.ascending.nodup_keysOf
      simpa [keysOf, Function.comp_def] using hkeys
    · intro m hm
      obtain ⟨entry, hentry, rfl⟩ := List.mem_map.mp hm
      exact item.tidy_toValue (h entry hentry)
  | _, .record _ fields _ split, b, h => by
    rw [Schema.Returns] at h
    rw [Schema.toValue]
    refine Value.tidy_object_iff.mpr ⟨?_, ?_⟩
    · rw [fields.keysOf_toMembers]
      exact h.2.1
    · exact fields.tidy_toMembers h.2.2
  | _, .any ofValue toValue, a, h => by
    rw [Schema.Returns] at h
    rw [Schema.toValue]
    exact ⟨h.2.1 ▸ (toValue a).distinctKeys_sorted, h.2.2⟩
  | _, .choice variants name, a, _ => by
    rw [Schema.toValue]
    exact Value.tidy_text (name a)

theorem Fields.tidy_toMembers : {σ α : Type} → (fields : Fields σ α) → {a : α} →
    fields.Returns a → ∀ m ∈ fields.toMembers a, m.2.Tidy
  | _, _, .nil, _, _ => fun m hm => by cases hm
  | _, _, .cons key item _ rest, (a, others), h => by
    rw [Fields.Returns] at h
    rw [Fields.toMembers]
    intro m hm
    rcases List.mem_cons.mp hm with rfl | hrest
    · exact item.tidy_toValue h.1
    · exact rest.tidy_toMembers h.2 m hrest

end

/-- A list of texts has no brackets but its own. -/
theorem Schema.depth_texts_le (texts : List String) :
    ((Schema.list .text).toValue texts).depth ≤ 1 := by
  rw [Schema.toValue, Value.depth_array_le_iff]
  intro v hv
  obtain ⟨text, _, rfl⟩ := List.mem_map.mp hv
  exact Nat.le_refl 0

/-! ### Converting it back -/

theorem convertAll_map_ok {α : Type} {convert : Value → Except Fault α} {write : α → Value}
    {as : List α} (h : ∀ a ∈ as, convert (write a) = .ok a) :
    convertAll convert (as.map write) = .ok as := by
  induction as with
  | nil => rfl
  | cons a as ih =>
    rw [List.map_cons, convertAll, h a List.mem_cons_self]
    simp only [ih fun b hb => h b (List.mem_cons_of_mem a hb)]

/-- A table is put together entry by entry, as it was written. -/
theorem foldMembers_insert {α : Type} {convert : Value → Except Fault α} {write : α → Value}
    {entries : List (String × α)} (h : ∀ m ∈ entries, convert (write m.2) = .ok m.2)
    (found : Table α) :
    foldMembers (fun found key v => (convert v).map (found.insert key ·)) found
        (entries.map fun m => (m.1, write m.2)) =
      .ok (entries.foldl (fun t m => t.insert m.1 m.2) found) := by
  induction entries generalizing found with
  | nil => rfl
  | cons m entries ih =>
    rw [List.map_cons, foldMembers, h m List.mem_cons_self]
    exact ih (fun n hn => h n (List.mem_cons_of_mem m hn)) _

theorem foldl_insert_entries {α : Type} (t : Table α) :
    t.entries.foldl (fun t m => t.insert m.1 m.2) ∅ = t := by
  have hentries : ∀ (entries : List (String × α)) (found : Table α),
      (entries.foldl (fun t m => t.insert m.1 m.2) found).entries =
        entries.foldl (fun sorted m => putEntry m.1 m.2 sorted) found.entries := by
    intro entries
    induction entries with
    | nil => exact fun _ => rfl
    | cons m entries ih => exact fun found => ih (found.insert m.1 m.2)
  exact Table.ext ((hentries t.entries ∅).trans (sortEntries_eq_self t.ascending))

namespace Fields

def filled : {σ α : Type} → Fields σ α → α → σ
  | _, _, .nil, _ => ()
  | _, _, .cons _ _ _ rest, (a, others) => (some a, rest.filled others)

/-- A record with all fields needs none of the values that stand for absent ones. -/
theorem finish_filled : {σ α : Type} → (fields : Fields σ α) → (a : α) →
    fields.finish (fields.filled a) = .ok a
  | _, _, .nil, _ => rfl
  | _, _, .cons _ _ _ rest, (a, others) => by
    rw [filled, finish]
    simp only [Option.some_or, rest.finish_filled others]

/-- Members that are not of the first field go to the others. -/
theorem foldMembers_put_cons {α σ β : Type} {name : String} {item : Schema α} {blank : Option α}
    {rest : Fields σ β} {members : List (String × Value)} (hnew : name ∉ keysOf members)
    (found : Option α) (others : σ) :
    foldMembers (fun state key v => (cons name item blank rest).put key v state) (found, others)
        members =
      (foldMembers (fun state key v => rest.put key v state) others members).map (found, ·) := by
  induction members generalizing others with
  | nil => rfl
  | cons m members ih =>
    obtain ⟨key, v⟩ := m
    obtain ⟨hname, hmembers⟩ := not_or.mp (fun h => hnew (List.mem_cons.mpr h))
    rw [foldMembers, foldMembers, put, if_neg (Ne.symm hname)]
    cases rest.put key v others with
    | error fault => rfl
    | ok next => exact ih hmembers next

end Fields

mutual

/-- What is written of a type is converted back to what it was. -/
theorem Schema.ofValue_toValue : {α : Type} → (schema : Schema α) → {a : α} → schema.Returns a →
    schema.ofValue (schema.toValue a).sorted = .ok a
  | _, .text, s, _ => rfl
  | _, .list item, as, h => by
    rw [Schema.Returns] at h
    rw [Schema.toValue, Value.sorted_array, Schema.ofValue, List.map_map]
    exact convertAll_map_ok fun a ha => item.ofValue_toValue (h a ha)
  | _, .table item, t, h => by
    rw [Schema.Returns] at h
    have hback : ∀ m ∈ t.entries, item.ofValue (item.toValue m.2).sorted = .ok m.2 :=
      fun m hm => item.ofValue_toValue (h m hm)
    have hsorted : sortEntries (t.entries.map fun m => (m.1, (item.toValue m.2).sorted)) =
        t.entries.map fun m => (m.1, (item.toValue m.2).sorted) := by
      apply sortEntries_eq_self
      simpa [Ascending, List.pairwise_map] using t.ascending
    rw [Schema.toValue, Value.sorted_object, Value.ofMembers, List.map_map]
    simp only [Function.comp_def]
    rw [hsorted, Schema.ofValue]
    have hfold := @foldMembers_insert _ item.ofValue (fun a => (item.toValue a).sorted) _ hback ∅
    rw [hfold, foldl_insert_entries]
  | _, .record _ fields make split, b, h => by
    rw [Schema.Returns] at h
    obtain ⟨hmake, hkeys, hfields⟩ := h
    have hnodup : (keysOf (fields.toMembers (split b))).Nodup := by
      rw [fields.keysOf_toMembers]
      exact hkeys
    -- The members come back sorted by their keys, which makes no difference to the fields.
    have hfold := fields.commutes_put.toOption_foldMembers_sorted hnodup fields.unread
    have hsorted : foldMembers (fun found key v => fields.put key v found) fields.unread
          ((fields.toMembers (split b)).map fun m => (m.1, m.2.sorted)) =
        foldMembers (fun found key v => fields.put key v.sorted found) fields.unread
          (fields.toMembers (split b)) :=
      foldMembers_map Value.sorted fields.unread _
    rw [← hsorted, fields.foldMembers_toMembers hkeys hfields] at hfold
    rw [Schema.toValue, Value.sorted_object, Value.ofMembers, Schema.ofValue, eq_ok_of_toOption hfold]
    simp only [Except.bind, fields.finish_filled, Except.map, hmake]
  | _, .any ofValue toValue, a, h => by
    rw [Schema.Returns] at h
    rw [Schema.toValue, Schema.ofValue, h.2.1, h.1]
  | _, .choice variants name, a, h => by
    rw [Schema.Returns] at h
    have hfind : findVariant variants (name a) = .ok a := by
      rw [findVariant, h]
    exact hfind

/-- The fields are filled one by one, in the order in which they are written. -/
theorem Fields.foldMembers_toMembers : {σ α : Type} → (fields : Fields σ α) → {a : α} →
    fields.keys.Nodup → fields.Returns a →
    foldMembers (fun state key v => fields.put key v state) fields.unread
      ((fields.toMembers a).map fun m => (m.1, m.2.sorted)) = .ok (fields.filled a)
  | _, _, .nil, _, _, _ => rfl
  | _, _, .cons key item blank rest, (a, others), hkeys, h => by
    rw [Fields.Returns] at h
    obtain ⟨hnew, hrest⟩ := List.nodup_cons.mp hkeys
    have hothers := rest.foldMembers_toMembers hrest h.2
    have hfirst : (Fields.cons key item blank rest).put key (item.toValue a).sorted
        (none, rest.unread) = .ok (some a, rest.unread) := by
      rw [Fields.put, if_pos rfl, item.ofValue_toValue h.1]
    have hmembers : key ∉ keysOf ((rest.toMembers others).map fun m => (m.1, m.2.sorted)) := by
      rw [← rest.keysOf_toMembers others] at hnew
      simpa [keysOf, Function.comp_def] using hnew
    rw [Fields.toMembers, List.map_cons, foldMembers, Fields.unread, hfirst]
    simp only
    rw [Fields.foldMembers_put_cons hmembers, hothers]
    rfl

end

/-! ### Documents -/

/-- Either text of what is written of a type is read back as what it was, if there is room for it. -/
theorem Schema.ofText_toValue {α : Type} (schema : Schema α) {a : α} (h : schema.Returns a)
    (hdepth : (schema.toValue a).depth ≤ depthLimit) {text : String}
    (htext : text ∈ [(schema.toValue a).compact, (schema.toValue a).pretty]) :
    schema.ofText text = .ok a := by
  have htidy := schema.tidy_toValue h
  have hspelled := spelled_of_mem_layouts htidy.noReal htext
  apply eq_ok_of_toOption
  rw [schema.toOption_ofText hspelled ⟨hdepth, htidy.distinct⟩, schema.ofValue_toValue h]
  rfl

end ClusterAdvisor.Json
