import ClusterAdvisor.Proofs.SchemaReading

/-!
What readers give. A property of everything that a reader gives is kept through the loops over items
and members, so that the open parts of whatever type a document is read as are values that have been
read, in the room that was left for them.
-/

namespace ClusterAdvisor.Json

namespace Reader

variable {α β σ : Type}

/-- Everything that the reader gives has the property. -/
def Gives (reader : Reader α) (P : α → Prop) : Prop :=
  ∀ text a rest, reader.run text = .ok (a, rest) → P a

variable {P : α → Prop} {Q : β → Prop} {R : σ → Prop}

theorem Gives.mono {reader : Reader α} {P' : α → Prop} (h : reader.Gives P)
    (himp : ∀ a, P a → P' a) : reader.Gives P' :=
  fun text a rest hrun => himp a (h text a rest hrun)

theorem Gives.map {reader : Reader α} {f : α → β} (h : reader.Gives fun a => Q (f a)) :
    (reader.map f).Gives Q := by
  intro text b rest hrun
  simp only [Reader.map] at hrun
  split at hrun
  · rename_i hread
    cases hrun
    exact h _ _ _ hread
  · cases hrun

theorem Gives.document {reader : Reader α} {source : String} {a : α} (h : reader.Gives P)
    (hread : reader.document source = .ok a) : P a := by
  unfold Reader.document at hread
  split at hread
  · cases hread
  · rename_i found rest hrun
    split at hread
    · cases hread
      exact h _ _ _ hrun
    · cases hread

theorem gives_spaced {f : List Char → Except Fault (α × List Char)}
    {hf : ∀ {text a rest}, f text = .ok (a, rest) → rest.length < text.length}
    (h : ∀ text a rest, f text = .ok (a, rest) → P a) : (spaced f @hf).Gives P := by
  intro text a rest hrun
  obtain ⟨_, start, _, _, hstart⟩ := exists_of_spaced hrun
  exact h start a rest hstart

/-- By induction over an array: what holds of every item holds of all that are read. -/
theorem Gives.items {item : Reader α} (hitem : item.Gives P) {first : Bool}
    {text rest : List Char} {as : List α} (h : items item first text = .ok (as, rest)) :
    ∀ a ∈ as, P a := by
  fun_induction Reader.items item first text generalizing as rest with
  | case1 => cases h
  | case2 =>
    cases h
    exact fun a ha => absurd ha List.not_mem_nil
  | case3 => cases h
  | case4 => cases h
  | case5 first text start hnext a left hrun hshort more final hmore ih =>
    cases h
    rw [List.forall_mem_cons]
    exact ⟨hitem _ _ _ hrun, ih hmore⟩

theorem gives_list {inner : Option (Reader α)} (h : ∀ item ∈ inner, item.Gives P) :
    (list inner).Gives fun as => ∀ a ∈ as, P a := by
  refine gives_spaced fun text as rest hrun => ?_
  split at hrun
  · cases inner with
    | none => cases hrun
    | some item => exact (h item rfl).items hrun
  · cases hrun

/-- What each member leaves as it is, the loop over the members does. -/
theorem gives_members {step : String → σ → Except Fault (Reader σ)}
    (hstep : ∀ key state reader, R state → step key state = .ok reader → reader.Gives R)
    {first : Bool} {state final : σ} {text rest : List Char} (hstate : R state)
    (h : members step first state text = .ok (final, rest)) : R final := by
  fun_induction Reader.members step first state text with
  | case1 => cases h
  | case2 =>
    cases h
    exact hstate
  | case3 => cases h
  | case4 => cases h
  | case5 => cases h
  | case6 => cases h
  | case7 first state text start hnext key left hkey reader hread behind hcolon found more hvalue
      _ ih =>
    exact ih (hstep key state reader hstate hread _ _ _ hvalue) h

/-- What every member keeps of the state holds of the object. -/
theorem gives_object {step : Option (String → σ → Except Fault (Reader σ))} {start : σ}
    {expected : Expected} (hstart : R start)
    (h : ∀ step' ∈ step, ∀ key state reader, R state → step' key state = .ok reader →
      reader.Gives R) : (object step start expected).Gives R := by
  refine gives_spaced fun text final rest hrun => ?_
  split at hrun
  · cases step with
    | none => cases hrun
    | some step => exact gives_members (h step rfl) hstart hrun
  · cases hrun

theorem gives_field {first : Bool} {absent : Except Fault (α × β)} {item : Reader α}
    {others : Reader β} (habsent : ∀ found, absent = .ok found → P found.1 ∧ Q found.2)
    (hitem : item.Gives P) (hothers : others.Gives Q) :
    (field first absent item others).Gives fun found => P found.1 ∧ Q found.2 := by
  intro text found rest hrun
  simp only [field] at hrun
  split at hrun
  · cases hrun
  · split at hrun
    · cases hrun
      exact habsent _ rfl
    · cases hrun
  · split at hrun
    · cases hrun
    · rename_i hfirst
      split at hrun
      · cases hrun
      · rename_i hrest
        cases hrun
        exact ⟨hitem _ _ _ hfirst, hothers _ _ _ hrest⟩

theorem gives_record {name : String} {row : Reader α}
    {step : String → σ → Except Fault (Reader σ)} {start : σ} {finish : σ → Except Fault α}
    {room : Nat} (hrow : row.Gives P) (hstart : R start)
    (hstep : ∀ key state reader, R state → step key state = .ok reader → reader.Gives R)
    (hfinish : ∀ state a, R state → finish state = .ok a → P a) :
    (record name row step start finish room).Gives P := by
  refine gives_spaced fun text a rest hrun => ?_
  split at hrun
  · split at hrun
    · cases hrun
    · exact hrow _ _ _ hrun
  · split at hrun
    · cases hrun
    · split at hrun
      · cases hrun
      · rename_i hmembers
        split at hrun
        · rename_i hfinal
          cases hrun
          exact hfinish _ _ (gives_members hstep hstart hmembers) hfinal
        · cases hrun
  · cases hrun

end Reader

/-! ### Values of any kind -/

/-- The value is read from some text, with brackets and braces in the room that there is. -/
def Value.Readable (room : Nat) (v : Value) : Prop :=
  ∃ tree text, Spells tree text ∧ tree.depth ≤ room ∧ tree.sorted = v

theorem Reader.gives_value (room : Nat) : (Reader.value room).Gives (Value.Readable room) := by
  intro text v rest hrun
  obtain ⟨_, taken, tree, _, hspells, _, hdepth, hsorted⟩ := Reader.takesSpelled_value room hrun
  exact ⟨tree, taken, hspells, hdepth, hsorted⟩

/-- Sorting drops members at most, so nothing becomes deeper by it. -/
theorem Value.depth_sorted_le (v : Value) : v.sorted.depth ≤ v.depth := by
  induction v using Value.induction with
  | array items ih =>
    rw [Value.sorted_array, Value.depth.eq_def (.array items), Value.depth_array_le_iff]
    intro w hw
    obtain ⟨v, hv, rfl⟩ := List.mem_map.mp hw
    exact Nat.le_trans (ih v hv) (Value.depthItems_le_iff.mp (Nat.le_refl _) v hv)
  | object members ih =>
    rw [Value.sorted_object, Value.depth.eq_def (.object members), Value.ofMembers,
      Value.depth_object_le_iff]
    intro m hm
    obtain ⟨first, hfirst, rfl⟩ := List.mem_map.mp (mem_of_mem_sortEntries hm)
    exact Nat.le_trans (ih first hfirst) (Value.depthMembers_le_iff.mp (Nat.le_refl _) first hfirst)
  | _ => exact Nat.le_refl 0

theorem Value.Readable.depth_le {room : Nat} {v : Value} (h : v.Readable room) :
    v.depth ≤ room := by
  obtain ⟨tree, _, _, hdepth, rfl⟩ := h
  exact Nat.le_trans tree.depth_sorted_le hdepth

/-- A value for which there was room inside of something has room by itself. -/
theorem Value.Readable.exists_ofText {room : Nat} {v : Value} (h : v.Readable room)
    (hroom : room ≤ depthLimit) : ∃ text, Value.ofText text = .ok v := by
  obtain ⟨tree, text, hspells, hdepth, rfl⟩ := h
  have hspelled : Spelled (String.ofList text) tree :=
    ⟨[], text, [], by simp, blank_nil, blank_nil, hspells⟩
  exact ⟨_, (Value.ofText_eq_ok_iff hspelled).mpr ⟨Nat.le_trans hdepth hroom, rfl⟩⟩

/-! ### Types -/

mutual

/-- The open parts are values that have been read, inside of what stands around them. -/
def Schema.Reads : {α : Type} → Schema α → (room : Nat) → α → Prop
  | _, .text, _, _ => True
  | _, .list item, room, as => ∀ a ∈ as, item.Reads (room - 1) a
  | _, .table item, room, t => ∀ m ∈ t.entries, item.Reads (room - 1) m.2
  | _, .record _ fields make _, room, b => ∃ a, make a = b ∧ fields.Reads (room - 1) a
  | _, .any ofValue _, room, a => ∃ v : Value, v.Readable room ∧ ofValue v = a
  | _, .choice _ _, _, _ => True

/-- Every field is read, or is what it is if it is absent. -/
def Fields.Reads : {σ α : Type} → Fields σ α → (room : Nat) → α → Prop
  | _, _, .nil, _, _ => True
  | _, _, .cons _ item blank rest, room, (a, others) =>
    (blank = some a ∨ item.Reads room a) ∧ rest.Reads room others

end

/-- What has been read so far of every field. -/
def Fields.HasRead : {σ α : Type} → Fields σ α → (room : Nat) → σ → Prop
  | _, _, .nil, _, _ => True
  | _, _, .cons _ item _ rest, room, (found, others) =>
    (∀ a ∈ found, item.Reads room a) ∧ rest.HasRead room others

namespace Fields

variable {σ α : Type}

theorem hasRead_unread : (room : Nat) → {σ α : Type} → (fields : Fields σ α) →
    fields.HasRead room fields.unread
  | _, _, _, .nil => trivial
  | room, _, _, .cons _ _ _ rest => by
    rw [unread, HasRead]
    exact ⟨fun a h => absurd h (Option.not_mem_none a), hasRead_unread room rest⟩

/-- A record is made of what has been read of its fields and of what stands for those that are
absent. -/
theorem HasRead.finish : {σ α : Type} → {fields : Fields σ α} → {room : Nat} → {state : σ} →
    {a : α} → fields.HasRead room state → fields.finish state = .ok a → fields.Reads room a
  | _, _, .nil, _, _, _, _, _ => by
    rw [Reads]
    trivial
  | _, _, .cons key item blank rest, room, (found, others), (a, b), h, hfinish => by
    rw [HasRead] at h
    rw [Fields.finish] at hfinish
    split at hfinish
    · cases hfinish
    · rename_i first hfirst
      split at hfinish
      · rename_i hothers
        cases hfinish
        rw [Reads]
        refine ⟨?_, h.2.finish hothers⟩
        cases found with
        -- No member gave this field, so it is what it is in its absence.
        | none => exact Or.inl hfirst
        | some read =>
          obtain rfl := Option.some.inj hfirst
          exact Or.inr (h.1 _ rfl)
      · cases hfinish

theorem reads_absent {record : String} {total room : Nat} : {σ α : Type} → (fields : Fields σ α) →
    {index : Nat} → {a : α} → fields.absent record total index = .ok a → fields.Reads room a
  | _, _, .nil, _, _, _ => by
    rw [Reads]
    trivial
  | _, _, .cons _ item none rest, index, a, h => by
    rw [absent] at h
    cases h
  | _, _, .cons _ item (some first) rest, index, a, h => by
    rw [absent] at h
    split at h
    · rename_i hothers
      cases h
      rw [Reads]
      exact ⟨Or.inl rfl, rest.reads_absent hothers⟩
    · cases h

end Fields

namespace Reader

variable {α β σ : Type} {item : Schema α}

theorem gives_schemaList (hitem : ∀ room, (item.reader room).Gives (item.Reads room)) (room : Nat) :
    ((Schema.list item).reader room).Gives ((Schema.list item).Reads room) := by
  have hlist : ((Schema.list item).reader room).Gives fun as =>
      ∀ a ∈ as, item.Reads (room - 1) a := by
    cases room with
    | zero =>
      rw [Schema.reader]
      exact gives_list fun _ h => absurd h (Option.not_mem_none _)
    | succ room =>
      rw [Schema.reader]
      refine gives_list fun reader h => ?_
      cases h
      exact hitem room
  refine hlist.mono fun as h => ?_
  rw [Schema.Reads]
  exact h

theorem gives_schemaTable (hitem : ∀ room, (item.reader room).Gives (item.Reads room))
    (room : Nat) : ((Schema.table item).reader room).Gives ((Schema.table item).Reads room) := by
  have htable : ((Schema.table item).reader room).Gives fun t =>
      ∀ m ∈ t.entries, item.Reads (room - 1) m.2 := by
    have hempty : ∀ m ∈ (∅ : Table α).entries, item.Reads (room - 1) m.2 :=
      fun m h => absurd h List.not_mem_nil
    cases room with
    | zero =>
      rw [Schema.reader]
      exact gives_object hempty fun _ h => absurd h (Option.not_mem_none _)
    | succ room =>
      rw [Schema.reader]
      refine gives_object hempty fun step h => ?_
      cases h
      rintro key t reader ht ⟨⟩
      refine Gives.map ((hitem room).mono fun a ha m hm => ?_)
      rcases mem_of_mem_putEntry hm with rfl | hmember
      · exact ha
      · exact ht m hmember
  refine htable.mono fun t h => ?_
  rw [Schema.Reads]
  exact h

theorem gives_schemaRecord {fields : Fields σ α} {name : String} {make : α → β} {split : β → α}
    (hrow : ∀ room, (fields.row name fields.count room 0).Gives (fields.Reads room))
    (hstep : ∀ room key state reader, fields.HasRead room state →
      fields.step room key state = .ok reader → reader.Gives (fields.HasRead room)) (room : Nat) :
    ((Schema.record name fields make split).reader room).Gives
      ((Schema.record name fields make split).Reads room) := by
  rw [Schema.reader]
  refine Gives.map (Gives.mono (P := fields.Reads (room - 1)) ?_ fun a h => ?_)
  · exact gives_record (hrow (room - 1)) (fields.hasRead_unread (room - 1)) (hstep (room - 1))
      fun _ _ h => h.finish
  · rw [Schema.Reads]
    exact ⟨a, rfl, h⟩

theorem gives_schemaAny {ofValue : Value → α} {toValue : α → Value} (room : Nat) :
    ((Schema.any ofValue toValue).reader room).Gives ((Schema.any ofValue toValue).Reads room) := by
  rw [Schema.reader]
  refine Gives.map ((gives_value room).mono fun v h => ?_)
  rw [Schema.Reads]
  exact ⟨v, h, rfl⟩

theorem gives_row_cons {record key : String} {total room index : Nat} {blank : Option α}
    {rest : Fields σ β} (hitem : (item.reader room).Gives (item.Reads room))
    (hrest : (rest.row record total room (index + 1)).Gives (rest.Reads room)) :
    ((Fields.cons key item blank rest).row record total room index).Gives
      ((Fields.cons key item blank rest).Reads room) := by
  rw [Fields.row]
  refine (gives_field (P := fun a => blank = some a ∨ item.Reads room a) (fun found h => ?_)
    (hitem.mono fun a h => Or.inr h) hrest).mono fun found h => ?_
  · have habsent : (Fields.cons key item blank rest).Reads room found := Fields.reads_absent _ h
    rw [Fields.Reads] at habsent
    exact habsent
  · rw [Fields.Reads]
    exact h

theorem gives_step_cons {name key : String} {room : Nat} {blank : Option α} {rest : Fields σ β}
    {state : Option α × σ} {reader : Reader (Option α × σ)}
    (hitem : (item.reader room).Gives (item.Reads room))
    (hrest : ∀ others reader, rest.HasRead room others →
      rest.step room key others = .ok reader → reader.Gives (rest.HasRead room))
    (h : (Fields.cons name item blank rest).HasRead room state)
    (hstep : (Fields.cons name item blank rest).step room key state = .ok reader) :
    reader.Gives ((Fields.cons name item blank rest).HasRead room) := by
  obtain ⟨found, others⟩ := state
  rw [Fields.HasRead] at h
  simp only [Fields.step] at hstep
  split at hstep
  · split at hstep
    · cases hstep
    · cases hstep
      refine Gives.map (hitem.mono fun a ha => ?_)
      rw [Fields.HasRead]
      refine ⟨fun b hb => ?_, h.2⟩
      obtain rfl := Option.some.inj hb
      exact ha
  · split at hstep
    · rename_i next hnext
      cases hstep
      refine Gives.map ((hrest others next h.2 hnext).mono fun b hb => ?_)
      rw [Fields.HasRead]
      exact ⟨h.1, hb⟩
    · cases hstep

end Reader

mutual

/-- By induction over the schema, together with the inductions over rows and over members. -/
theorem Schema.gives_reader : {α : Type} → (schema : Schema α) → (room : Nat) →
    (schema.reader room).Gives (schema.Reads room)
  | _, .text, room => fun _ _ _ _ => by
    rw [Schema.Reads]
    trivial
  | _, .list item, room => Reader.gives_schemaList item.gives_reader room
  | _, .table item, room => Reader.gives_schemaTable item.gives_reader room
  | _, .record name fields _ _, room =>
    Reader.gives_schemaRecord (fun room => fields.gives_row name fields.count room 0)
      fields.gives_step room
  | _, .any _ _, room => Reader.gives_schemaAny room
  | _, .choice _ _, _ => fun _ _ _ _ => by
    rw [Schema.Reads]
    trivial

theorem Fields.gives_row : {σ α : Type} → (fields : Fields σ α) → (record : String) →
    (total room index : Nat) → (fields.row record total room index).Gives (fields.Reads room)
  | _, _, .nil, _, _, _, _ => fun _ _ _ _ => by
    rw [Fields.Reads]
    trivial
  | _, _, .cons _ item _ rest, record, total, room, index =>
    Reader.gives_row_cons (item.gives_reader room) (rest.gives_row record total room (index + 1))

theorem Fields.gives_step : {σ α : Type} → (fields : Fields σ α) → (room : Nat) → (key : String) →
    (state : σ) → (reader : Reader σ) → fields.HasRead room state →
    fields.step room key state = .ok reader → reader.Gives (fields.HasRead room)
  | _, _, .nil, _, _, _, _, _, _ => fun _ _ _ _ => trivial
  | _, _, .cons _ item _ rest, room, key, _, _, h, hstep =>
    Reader.gives_step_cons (item.gives_reader room) (rest.gives_step room key) h hstep

end

/-- Whatever a document is read as, its open parts are values that were read. -/
theorem Schema.reads_ofText {α : Type} (schema : Schema α) {text : String} {a : α}
    (h : schema.ofText text = .ok a) : schema.Reads depthLimit a :=
  (schema.gives_reader depthLimit).document h

end ClusterAdvisor.Json
