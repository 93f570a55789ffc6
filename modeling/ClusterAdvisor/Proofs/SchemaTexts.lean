import ClusterAdvisor.Proofs.KindReading

/-!
Types read from texts. No reader of a type looks at what is around its value, and what it gives for an
array or an object comes from what the parts give: the items, the rows of a table, the values of a
row, the members of a record.
-/

namespace ClusterAdvisor.Json

namespace Fields

/-- What the values of a row are read as; the fields behind the last value have their blanks. -/
def rowOf (room : Nat) : {σ α : Type} → Fields σ α → List (List Char) → Option α
  | _, _, .nil, values => if values.isEmpty then some () else none
  | _, _, .cons _ item blank rest, values =>
    match values with
    | [] => blank.bind fun a => (rest.rowOf room []).map (a, ·)
    | v :: values => ((item.reader room).whole v).bind fun a => (rest.rowOf room values).map (a, ·)

/-- The fields that an array is too short for are what the fields say of themselves, or the array is
refused. -/
theorem toOption_absent (room : Nat) : {σ α : Type} → (fields : Fields σ α) → (record : String) →
    (total index : Nat) → (fields.absent record total index).toOption = fields.rowOf room []
  | _, _, .nil, _, _, _ => rfl
  | _, _, .cons _ _ blank rest, record, total, index => by
    simp only [absent, rowOf]
    cases blank with
    | none => rfl
    | some a =>
      simp only [Option.bind_some]
      rw [← rest.toOption_absent room record total (index + 1)]
      cases rest.absent record total (index + 1) with
      | error fault => rfl
      | ok b => rfl

theorem readsRow_cons {σ α β : Type} {record key : String} {total room index : Nat}
    {item : Schema α} {blank : Option α} {rest : Fields σ β} {values : List (List Char)}
    (hitem : ∀ v, WellFormed v → (item.reader room).Uniform v)
    (hrest : ∀ values, (∀ v ∈ values, WellFormed v) →
      (rest.row record total room (index + 1)).ReadsRow false values (rest.rowOf room values))
    (hvalues : ∀ v ∈ values, WellFormed v) :
    ((Fields.cons key item blank rest).row record total room index).ReadsRow (index == 0) values
      ((Fields.cons key item blank rest).rowOf room values) := by
  rw [row]
  cases values with
  | nil =>
    rw [← toOption_absent room _ record total index]
    exact Reader.readsRow_field_nil
  | cons v values =>
    obtain ⟨hv, hvalues⟩ := List.forall_mem_cons.mp hvalues
    exact Reader.readsRow_field_cons hv (hitem v hv) (hrest values hvalues)

theorem uniform_step_cons {σ α β : Type} {name key : String} {room : Nat} {item : Schema α}
    {blank : Option α} {rest : Fields σ β} {state : Option α × σ} {reader : Reader (Option α × σ)}
    {v : List Char} (hitem : (item.reader room).Uniform v)
    (hrest : ∀ others reader, rest.step room key others = .ok reader → reader.Uniform v)
    (h : (Fields.cons name item blank rest).step room key state = .ok reader) :
    reader.Uniform v := by
  obtain ⟨found, others⟩ := state
  simp only [step] at h
  split at h
  · cases found with
    | some a => cases h
    | none =>
      cases h
      exact hitem.map _
  · cases hothers : rest.step room key others with
    | error fault =>
      rw [hothers] at h
      cases h
    | ok inner =>
      rw [hothers] at h
      cases h
      exact (hrest others inner hothers).map _

/-- A member goes to the field with its key, unless the field has been read. -/
theorem putText_cons {σ α β : Type} (room : Nat) (name : String) (item : Schema α)
    (blank : Option α) (rest : Fields σ β) (state : Option α × σ) (m : String × List Char) :
    Reader.putText ((Fields.cons name item blank rest).step room) state m =
      if m.1 = name then
        if state.1.isSome then none
        else ((item.reader room).whole m.2).map fun a => (some a, state.2)
      else (Reader.putText (rest.step room) state.2 m).map fun others => (state.1, others) := by
  obtain ⟨found, others⟩ := state
  simp only [Reader.putText, step]
  split
  · cases found with
    | some a => rfl
    | none => exact Reader.whole_map _ _ m.2
  · cases rest.step room m.1 others with
    | error fault => rfl
    | ok reader => exact Reader.whole_map reader _ m.2

end Fields

def Schema.putRow {α : Type} (item : Schema α) (room : Nat) (found : Table α)
    (m : String × List Char) : Option (Table α) :=
  ((item.reader room).whole m.2).map (found.insert m.1 ·)

mutual

/-- What a type makes of a value does not depend on what is around the value. -/
theorem Schema.uniform : {α : Type} → (schema : Schema α) → (room : Nat) → (v : List Char) →
    WellFormed v → (schema.reader room).Uniform v
  | _, .text, _, _, h => by
    rw [Schema.reader]
    exact Reader.uniform_text h
  | _, .list item, room, _, h => by
    cases room with
    | zero =>
      rw [Schema.reader]
      exact Reader.uniform_list h fun reader hreader => by cases hreader
    | succ room =>
      rw [Schema.reader]
      refine Reader.uniform_list h fun reader hreader => ?_
      cases hreader
      exact item.uniform room
  | _, .table item, room, _, h => by
    cases room with
    | zero =>
      rw [Schema.reader]
      exact Reader.uniform_object h fun step hstep => by cases hstep
    | succ room =>
      rw [Schema.reader]
      refine Reader.uniform_object h fun step hstep key found reader hreader v hv => ?_
      cases hstep
      cases hreader
      exact (item.uniform room v hv).map _
  | _, .record name fields make _, room, _, h => by
    rw [Schema.reader]
    refine (Reader.uniform_record h (fun values hvalues => ?_)
      fun key state reader hreader v hv => fields.uniform_step (room - 1) hreader v hv).map make
    exact ⟨_, fields.readsRow name fields.count (room - 1) 0 values hvalues⟩
  | _, .any ofValue _, room, _, h => by
    rw [Schema.reader]
    exact (Reader.uniform_value room h).map ofValue
  | _, .choice variants _, room, _, h => by
    rw [Schema.reader]
    exact Reader.uniform_choice variants room h

/-- By induction over the fields, with the values that are left. -/
theorem Fields.readsRow : {σ α : Type} → (fields : Fields σ α) → (record : String) →
    (total room index : Nat) → (values : List (List Char)) → (∀ v ∈ values, WellFormed v) →
    (fields.row record total room index).ReadsRow (index == 0) values (fields.rowOf room values)
  | _, _, .nil, _, _, _, _, _, h => by
    rw [Fields.row, Fields.rowOf]
    exact Reader.readsRow_closingBracket h
  | _, _, .cons _ item _ rest, record, total, room, index, _, h =>
    Fields.readsRow_cons (item.uniform room) (rest.readsRow record total room (index + 1)) h

theorem Fields.uniform_step : {σ α : Type} → (fields : Fields σ α) → (room : Nat) →
    {key : String} → {state : σ} → {reader : Reader σ} → fields.step room key state = .ok reader →
    (v : List Char) → WellFormed v → reader.Uniform v
  | _, _, .nil, _, _, _, _, h, _, hv => by
    rw [Fields.step] at h
    cases h
    exact (Reader.reads_skip hv).uniform
  | _, _, .cons _ item _ rest, room, _, _, _, h, v, hv =>
    Fields.uniform_step_cons (item.uniform room v hv)
      (fun _ _ hrest => rest.uniform_step room hrest v hv) h

end

/-! ### Values of one type -/

section values

variable {α : Type} {item : Schema α} {room : Nat} {v : List Char}

theorem Schema.reads_list {values : List (List Char)} (h : ArrayText values v) :
    ((Schema.list item).reader (room + 1)).Reads v (values.mapM (item.reader room).whole) := by
  rw [Schema.reader]
  cases h with
  | mk htext hvalues =>
    exact Reader.reads_list (fun w hw => ⟨hvalues w hw, item.uniform room w (hvalues w hw)⟩) htext

theorem Schema.reads_table {ds : List (String × List Char)} (h : ObjectText ds v) :
    ((Schema.table item).reader (room + 1)).Reads v (ds.foldlM (item.putRow room) ∅) := by
  have hput : Reader.putText (fun key (found : Table α) =>
      .ok ((item.reader room).map fun a => found.insert key a)) = item.putRow room := by
    funext found m
    exact Reader.whole_map (item.reader room) _ m.2
  rw [Schema.reader, ← hput]
  refine Reader.reads_object_keyed (fun key found reader hstep w hw => ?_) h
  cases hstep
  exact (item.uniform room w hw).map _

end values

section record

variable {σ α β : Type} {name : String} {fields : Fields σ α} {make : α → β} {split : β → α}
  {room : Nat} {v : List Char}

theorem Schema.reads_record_row {values : List (List Char)} (h : ArrayText values v) :
    ((Schema.record name fields make split).reader (room + 1)).Reads v
      ((fields.rowOf room values).map make) := by
  rw [Schema.reader]
  cases h with
  | mk htext hvalues =>
    have hrow := fields.readsRow name fields.count room 0 values hvalues
    exact (Reader.reads_record_array hrow htext).map make

/-- The form from which the order of the members is removed in `Schema.whole_record`. -/
theorem Schema.reads_record_members {ds : List (String × List Char)} (h : ObjectText ds v) :
    ((Schema.record name fields make split).reader (room + 1)).Reads v
      (((ds.foldlM (Reader.putText (fields.step room)) fields.unread).bind fun state =>
        (fields.finish state).toOption).map make) := by
  rw [Schema.reader]
  exact (Reader.reads_record_keyed (fun _ _ _ hstep w hw =>
    fields.uniform_step room hstep w hw) h).map make

theorem Schema.reads_record_other {c : Char} {text : List Char} (hc : startsValue c = true)
    (hlist : c ≠ '[') (hobject : c ≠ '{') :
    ((Schema.record name fields make split).reader room).Reads (c :: text) none := by
  rw [Schema.reader]
  exact (Reader.reads_record_other hc hlist hobject).map make

end record

end ClusterAdvisor.Json
