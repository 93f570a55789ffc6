import ClusterAdvisor.Proofs.SchemaTexts
import ClusterAdvisor.Proofs.ValueReading

/-!
Two ways into a type. A document can be read piece by piece, or it can be read as a value first and
converted then; both give the same, as long as there is room and no object names a key twice. The
order of the members does not matter to either.
-/

namespace ClusterAdvisor.Json

theorem bind_map_comm {α β γ : Type} (x : Option α) (y : Option β) (f : α → β → γ) :
    (x.bind fun a => y.map fun b => f a b) = y.bind fun b => x.map fun a => f a b := by
  cases x with
  | none =>
    cases y with
    | none => rfl
    | some b => rfl
  | some a => exact Option.map_eq_bind

/-! ### Members in any order -/

/-- Steps on entries with different keys that may be taken in either order may be taken in any. -/
theorem foldlM_perm {σ β : Type} {put : σ → String × β → Option σ}
    (hput : ∀ state m n, m.1 ≠ n.1 →
      ((put state m).bind fun next => put next n) = (put state n).bind fun next => put next m)
    {ms ns : List (String × β)} (hperm : ms.Perm ns) (hnodup : (keysOf ms).Nodup) (state : σ) :
    ms.foldlM put state = ns.foldlM put state := by
  induction hperm generalizing state with
  | nil => rfl
  | cons m hperm ih =>
    rw [List.foldlM_cons, List.foldlM_cons]
    exact congrArg _ (funext fun next => ih (List.nodup_cons.mp hnodup).2 next)
  | swap m n ms =>
    have hne : n.1 ≠ m.1 := fun heq =>
      (List.nodup_cons.mp hnodup).1 (List.mem_cons.mpr (.inl heq))
    have hswap := congrArg (fun x => x.bind fun next => ms.foldlM put next) (hput state n m hne)
    simp only [List.foldlM_cons]
    simpa only [Option.bind_eq_bind, Option.bind_assoc] using hswap
  | trans hperm _ ih ih' =>
    rw [ih hnodup state]
    exact ih' ((hperm.map Prod.fst).nodup hnodup) state

section members

variable {σ : Type} {put : σ → String → Value → Except Fault σ}

/-- Members with different keys may be put in either order. -/
def Commutes (put : σ → String → Value → Except Fault σ) : Prop :=
  ∀ state key v other w, key ≠ other →
    ((put state key v).toOption.bind fun next => (put next other w).toOption) =
      (put state other w).toOption.bind fun next => (put next key v).toOption

/-- Which fault comes first may depend on the order; whether there is one does not. -/
theorem toOption_foldMembers (put : σ → String → Value → Except Fault σ)
    (members : List (String × Value)) (state : σ) :
    (foldMembers put state members).toOption =
      members.foldlM (fun state m => (put state m.1 m.2).toOption) state := by
  induction members generalizing state with
  | nil => rfl
  | cons m members ih =>
    rw [toOption_foldMembers_cons, List.foldlM_cons]
    exact congrArg _ (funext ih)

theorem Commutes.toOption_foldMembers_perm (h : Commutes put)
    {members others : List (String × Value)}
    (hperm : members.Perm others) (hnodup : (keysOf members).Nodup) (state : σ) :
    (foldMembers put state members).toOption = (foldMembers put state others).toOption := by
  rw [toOption_foldMembers, toOption_foldMembers]
  exact foldlM_perm (fun state m n => h state m.1 m.2 n.1 n.2) hperm hnodup state

theorem foldMembers_map (f : Value → Value) (state : σ) (members : List (String × Value)) :
    foldMembers put state (members.map fun m => (m.1, f m.2)) =
      foldMembers (fun state key v => put state key (f v)) state members := by
  induction members generalizing state with
  | nil => rfl
  | cons m members ih =>
    obtain ⟨key, v⟩ := m
    rw [List.map_cons, foldMembers, foldMembers]
    cases put state key (f v) with
    | error fault => rfl
    | ok next => exact ih next

/-- The two ways of loading meet here: one of them sorts the members before it looks at them, the
other takes them as they come. -/
theorem Commutes.toOption_foldMembers_sorted (h : Commutes put) {trees : List (String × Value)}
    (hnodup : (keysOf trees).Nodup) (state : σ) :
    (foldMembers put state (sortEntries (trees.map fun m => (m.1, m.2.sorted)))).toOption =
      (foldMembers (fun state key v => put state key v.sorted) state trees).toOption := by
  have hkeys : (keysOf (trees.map fun m => (m.1, m.2.sorted))).Nodup := by
    have hsame : keysOf (trees.map fun m => (m.1, m.2.sorted)) = keysOf trees := by
      simp [keysOf, Function.comp_def]
    rw [hsame]
    exact hnodup
  rw [h.toOption_foldMembers_perm (perm_sortEntries hkeys) ((ascending_sortEntries _).nodup_keysOf),
    foldMembers_map]

end members

theorem convertAll_map {α : Type} (convert : Value → Except Fault α) (f : Value → Value)
    (vs : List Value) : convertAll convert (vs.map f) = convertAll (fun v => convert (f v)) vs := by
  induction vs with
  | nil => rfl
  | cons v vs ih => rw [List.map_cons, convertAll, convertAll, ih]

namespace Fields

/-- The field with a key has not been read yet. -/
def Unfilled : {σ α : Type} → Fields σ α → σ → (key : String) → Prop
  | _, _, .nil, _, _ => True
  | _, _, .cons name _ _ rest, (found, others), key =>
    (key = name → found = none) ∧ rest.Unfilled others key

theorem unfilled_unread : {σ α : Type} → (fields : Fields σ α) → (key : String) →
    fields.Unfilled fields.unread key
  | _, _, .nil, _ => trivial
  | _, _, .cons _ _ _ rest, key => ⟨fun _ => rfl, unfilled_unread rest key⟩

theorem toOption_put_cons {α σ β : Type} (name : String) (item : Schema α) (blank : Option α)
    (rest : Fields σ β) (key : String) (v : Value) (state : Option α × σ) :
    ((Fields.cons name item blank rest).put key v state).toOption =
      if key = name then (item.ofValue v).toOption.map fun a => (some a, state.2)
      else (rest.put key v state.2).toOption.map fun others => (state.1, others) := by
  obtain ⟨found, others⟩ := state
  rw [Fields.put]
  split
  · cases item.ofValue v with
    | error fault => rfl
    | ok a => rfl
  · cases rest.put key v others with
    | error fault => rfl
    | ok others => rfl

/-- A member fills the field of its own key, so the other fields stay as they were. -/
theorem Unfilled.put : {σ α : Type} → {fields : Fields σ α} → {state next : σ} →
    {key other : String} → {v : Value} → fields.Unfilled state key → key ≠ other →
    fields.put other v state = .ok next → fields.Unfilled next key
  | _, _, .nil, _, _, _, _, _, _, _, _ => trivial
  | _, _, .cons name item blank rest, (found, others), next, key, other, v, h, hne, hput => by
    have hoption := toOption_put_cons name item blank rest other v (found, others)
    rw [hput, toOption_ok] at hoption
    split at hoption
    · rename_i hname
      obtain ⟨a, _, hnext⟩ := Option.map_eq_some_iff.mp hoption.symm
      subst hnext
      exact ⟨fun hkey => absurd (hkey.trans hname.symm) hne, h.2⟩
    · obtain ⟨others', hothers, hnext⟩ := Option.map_eq_some_iff.mp hoption.symm
      subst hnext
      exact ⟨h.1, h.2.put hne (eq_ok_of_toOption hothers)⟩

/-- Members with different keys fill different fields. -/
theorem commutes_put : {σ α : Type} → (fields : Fields σ α) →
    Commutes fun found key v => fields.put key v found
  | _, _, .nil => fun _ _ _ _ _ _ => rfl
  | _, _, .cons name item blank rest => by
    rintro ⟨found, others⟩ key v other w hne
    simp only [toOption_put_cons]
    by_cases hkey : key = name
    · have hother : other ≠ name := fun h => hne (hkey.trans h.symm)
      simp only [if_pos hkey, if_neg hother, Option.bind_map, Function.comp_def]
      exact bind_map_comm _ _ _
    · by_cases hother : other = name
      · simp only [if_neg hkey, if_pos hother, Option.bind_map, Function.comp_def]
        exact (bind_map_comm _ _ _).symm
      · simp only [if_neg hkey, if_neg hother]
        have hrest := commutes_put rest others key v other w hne
        have hpaired := congrArg (Option.map fun left => (found, left)) hrest
        simpa [Option.map_bind, Option.bind_map, Function.comp_def] using hpaired

end Fields

/-! ### Readers of types -/

/-- There is room for the tree, and none of its objects names a key twice. -/
structure Value.Fits (room : Nat) (tree : Value) : Prop where
  depth_le : tree.depth ≤ room
  distinct : tree.DistinctKeys

namespace Value.Fits

variable {room : Nat} {trees : List Value} {members : List (String × Value)}

theorem item (h : (Value.array trees).Fits room) :
    ∃ fewer, room = fewer + 1 ∧ ∀ v ∈ trees, v.Fits fewer := by
  cases room with
  | zero => exact absurd h.depth_le (by simp [Value.depth])
  | succ fewer =>
    have hdepths := Value.depth_array_le_iff.mp h.depth_le
    exact ⟨fewer, rfl, fun v hv => ⟨hdepths v hv, h.distinct.item hv⟩⟩

theorem member (h : (Value.object members).Fits room) :
    (keysOf members).Nodup ∧ ∃ fewer, room = fewer + 1 ∧ ∀ m ∈ members, m.2.Fits fewer := by
  refine ⟨h.distinct members (.self _), ?_⟩
  cases room with
  | zero => exact absurd h.depth_le (by simp [Value.depth])
  | succ fewer =>
    have hdepths := Value.depth_object_le_iff.mp h.depth_le
    exact ⟨fewer, rfl, fun m hm => ⟨hdepths m hm, h.distinct.member hm⟩⟩

end Value.Fits

def Value.null? : Value → Option Unit
  | .null => some ()
  | _ => none

theorem Spells.exists_other_start {tree : Value} {text : List Char} {c : Char}
    (h : Spells tree text) (hc : tree.startsWith c = false) :
    ∃ d rest, text = d :: rest ∧ startsValue d = true ∧ d ≠ c := by
  obtain ⟨d, rest, rfl, hd⟩ := h.exists_start
  refine ⟨d, rest, rfl, startsValue_of_startsWith hd, ?_⟩
  rintro rfl
  rw [hd] at hc
  cases hc

namespace Reader

variable {α β σ : Type} {room : Nat} {tree : Value}

theorem Agrees.congr {reader : Reader α} {converted other : Except Fault α}
    (h : reader.Agrees tree converted) (heq : converted.toOption = other.toOption) :
    reader.Agrees tree other := by
  intro blanks text rest hblank hspells hends
  rw [h blanks text rest hblank hspells hends, heq]

theorem agrees_text (tree : Value) : Reader.text.Agrees tree (Schema.text.ofValue tree.sorted) := by
  refine agrees_of_reads fun text hspells => ?_
  cases tree with
  | text s =>
    obtain ⟨body, rfl, hbody⟩ := hspells.exists_text
    have hread := reads_text (wellQuoted_of_textBody hbody)
    rwa [keyOf?_eq_some_iff.mpr hbody] at hread
  | _ =>
    obtain ⟨c, rest, rfl, hc, hquote⟩ := hspells.exists_other_start (c := '"') rfl
    exact reads_text_other hc hquote

/-- One level of the induction over schemas: inside of the brackets there is less room. -/
theorem agrees_list {item : Schema α} (h : tree.Fits room)
    (hitem : ∀ fewer v, Value.Fits fewer v → (item.reader fewer).Agrees v (item.ofValue v.sorted)) :
    ((Schema.list item).reader room).Agrees tree ((Schema.list item).ofValue tree.sorted) := by
  refine agrees_of_reads fun text hspells => ?_
  cases tree with
  | array trees =>
    obtain ⟨fewer, rfl, hfits⟩ := h.item
    obtain ⟨values, htext, hparts⟩ := hspells.exists_arrayText
    rw [Value.sorted_array, Schema.ofValue, convertAll_map,
      ← mapM_whole (fun v hv => hitem fewer v (hfits v hv)) hparts]
    exact Schema.reads_list htext
  | _ =>
    obtain ⟨c, rest, rfl, hc, hlist⟩ := hspells.exists_other_start (c := '[') rfl
    cases room with
    | zero =>
      rw [Schema.reader]
      exact reads_list_other hc hlist
    | succ fewer =>
      rw [Schema.reader]
      exact reads_list_other hc hlist

theorem agrees_table {item : Schema α} (h : tree.Fits room)
    (hitem : ∀ fewer v, Value.Fits fewer v → (item.reader fewer).Agrees v (item.ofValue v.sorted)) :
    ((Schema.table item).reader room).Agrees tree ((Schema.table item).ofValue tree.sorted) := by
  refine agrees_of_reads fun text hspells => ?_
  cases tree with
  | object trees =>
    obtain ⟨hnodup, fewer, rfl, hfits⟩ := h.member
    obtain ⟨ds, htext, hentries⟩ := hspells.exists_objectText
    have hcommutes : Commutes fun (found : Table α) key v =>
        (item.ofValue v).map (found.insert key ·) := by
      intro found key v other w hne
      simp only [toOption_map, Option.bind_map, Function.comp_def]
      rw [bind_map_comm]
      simp only [Table.insert_comm found _ _ hne]
    have hfold : ds.foldlM (item.putRow fewer) ∅ =
        (foldMembers (fun (found : Table α) key v => (item.ofValue v.sorted).map (found.insert key ·))
          ∅ trees).toOption := by
      refine foldlM_eq_foldMembers (P := fun _ members => ∀ m ∈ members, m.2.Fits fewer) ?_ ?_ hfits
        hentries
      · intro found key v members text hall htext
        rw [Schema.putRow, (hitem fewer v (hall _ List.mem_cons_self)).whole_eq htext, toOption_map]
      · intro found key v members next hall _ m hm
        exact hall m (List.mem_cons_of_mem _ hm)
    rw [Value.sorted_object, Value.ofMembers, Schema.ofValue,
      hcommutes.toOption_foldMembers_sorted hnodup, ← hfold]
    exact Schema.reads_table htext
  | _ =>
    obtain ⟨c, rest, rfl, hc, hobject⟩ := hspells.exists_other_start (c := '{') rfl
    cases room with
    | zero =>
      rw [Schema.reader]
      exact reads_object_other hc hobject
    | succ fewer =>
      rw [Schema.reader]
      exact reads_object_other hc hobject

theorem agrees_any {ofValue : Value → α} {toValue : α → Value} (h : tree.Fits room) :
    ((Schema.any ofValue toValue).reader room).Agrees tree
      ((Schema.any ofValue toValue).ofValue tree.sorted) := by
  rw [Schema.reader, Schema.ofValue]
  refine ((agrees_value room tree).map ofValue).congr ?_
  rw [toOption_map, toOption_within, if_pos h.depth_le]
  rfl

/-! ### Variants -/

theorem whole_unit {text : List Char} (h : Spells tree text) : unit.whole text = tree.null? := by
  cases tree with
  | null =>
    obtain ⟨body, rfl, hword⟩ := h.exists_null
    rw [eq_append_of_word hword, List.append_nil]
    exact reads_unit_null.whole_eq
  | _ =>
    obtain ⟨c, rest, rfl, hc, hnull⟩ := h.exists_other_start (c := 'n') rfl
    refine (reads_unit_other h.wellFormed ?_).whole_eq
    intro heq
    exact hnull (List.head_eq_of_cons_eq heq)

theorem toOption_ofValue_object {variants : List (String × α)} {name : α → String}
    {members : List (String × Value)} {ms : List (List Char × List Char)}
    (hnodup : (keysOf members).Nodup) (h : List.Forall₂ SpellsMember members ms) :
    ((Schema.choice variants name).ofValue (Value.object members).sorted).toOption =
      soleVariant variants ms := by
  cases h with
  | nil => rfl
  | @cons m n members ms hfirst hothers =>
    obtain ⟨key, v⟩ := m
    rw [soleVariant, keyOf?_eq_some_iff.mpr hfirst.1, Option.bind_some, whole_unit hfirst.2]
    cases hothers with
    | nil =>
      have hsingle : (Value.object [(key, v)]).sorted = .object [(key, v.sorted)] := rfl
      rw [hsingle, Schema.ofValue]
      cases v with
      | _ =>
        cases findVariant variants key with
        | error fault => rfl
        | ok a => rfl
    | @cons m' n' members ms _ _ =>
      have hkeys : (keysOf (((key, v) :: m' :: members).map fun m => (m.1, m.2.sorted))).Nodup := by
        simpa [keysOf, Function.comp_def] using hnodup
      have hlength := (perm_sortEntries hkeys).length_eq
      rw [Value.sorted_object, Value.ofMembers]
      generalize sortEntries (((key, v) :: m' :: members).map fun m => (m.1, m.2.sorted)) = found
        at hlength ⊢
      rcases found with _ | ⟨a, _ | ⟨b, others⟩⟩
      · cases hlength
      · cases hlength
      · cases v with
        | _ =>
          cases findVariant variants key with
          | error fault => rfl
          | ok a => rfl

theorem agrees_choice {variants : List (String × α)} {name : α → String} (h : tree.Fits room) :
    ((Schema.choice variants name).reader room).Agrees tree
      ((Schema.choice variants name).ofValue tree.sorted) := by
  rw [Schema.reader]
  refine agrees_of_reads fun text hspells => ?_
  cases tree with
  | text s =>
    obtain ⟨body, rfl, hbody⟩ := hspells.exists_text
    have hread := @reads_choice_text _ variants room _ (wellQuoted_of_textBody hbody)
    rwa [keyOf?_eq_some_iff.mpr hbody] at hread
  | object members =>
    obtain ⟨hnodup, fewer, rfl, hfits⟩ := h.member
    obtain ⟨body, rfl, hbody⟩ := hspells.exists_members
    obtain ⟨ms, hms, hnames, hvalues, hparts⟩ := hbody.exists_wellFormed
    rw [toOption_ofValue_object hnodup hparts]
    exact reads_choice_object hnames hvalues hms
  | _ =>
    obtain ⟨c, rest, rfl, hfirst⟩ := hspells.exists_start
    refine reads_choice_other (startsValue_of_startsWith hfirst) ?_ ?_
    · rintro rfl
      cases hfirst
    · rintro rfl
      cases hfirst

/-! ### Records -/

/-- The texts of a row are read as the values of the row are converted. -/
def RowAgrees (record : String) (total room index : Nat) (fields : Fields σ α) : Prop :=
  ∀ length trees values, (∀ v ∈ trees, v.Fits room) → List.Forall₂ Spells trees values →
    fields.rowOf room values =
      (fields.ofRow record total length (trees.map Value.sorted) index).toOption

variable {record : String} {total index : Nat}

theorem rowAgrees_nil : RowAgrees record total room index .nil := by
  intro length trees values _ hspells
  cases hspells with
  | nil => rfl
  | cons => rfl

/-- A row is read and converted field by field, and both go wrong together. -/
theorem rowAgrees_cons {key : String} {item : Schema α} {blank : Option α} {fields : Fields σ β}
    (hitem : ∀ v, Value.Fits room v → (item.reader room).Agrees v (item.ofValue v.sorted))
    (hfields : RowAgrees record total room (index + 1) fields) :
    RowAgrees record total room index (.cons key item blank fields) := by
  intro length trees values hfits hspells
  cases hspells with
  | nil => exact (Fields.toOption_absent room _ record total index).symm
  | @cons v text trees values hv hothers =>
    have hleft := hfields length trees values (fun w hw => hfits w (List.mem_cons_of_mem v hw)) hothers
    rw [Fields.rowOf, List.map_cons, Fields.ofRow, (hitem v (hfits v List.mem_cons_self)).whole_eq hv,
      hleft]
    cases item.ofValue v.sorted with
    | error fault => rfl
    | ok a =>
      simp only [toOption_ok, Option.bind_some]
      cases fields.ofRow record total length (trees.map Value.sorted) (index + 1) with
      | error fault => rfl
      | ok b => rfl

/-- The text of a member is read as its value is put to its field, unless the field has been read. -/
def StepAgrees (room : Nat) (fields : Fields σ α) : Prop :=
  ∀ state key v text, fields.Unfilled state key → Value.Fits room v → Spells v text →
    putText (fields.step room) state (key, text) = (fields.put key v.sorted state).toOption

theorem stepAgrees_nil (room : Nat) : StepAgrees room .nil :=
  fun _ _ _ _ _ _ hspells => (reads_skip hspells.wellFormed).whole_eq

/-- A member goes to the field of its key on both sides; a second one is kept out by `Unfilled`. -/
theorem stepAgrees_cons {name : String} {item : Schema α} {blank : Option α} {fields : Fields σ β}
    {room : Nat}
    (hitem : ∀ v, Value.Fits room v → (item.reader room).Agrees v (item.ofValue v.sorted))
    (hfields : StepAgrees room fields) : StepAgrees room (.cons name item blank fields) := by
  rintro ⟨found, others⟩ key v text ⟨hfound, hothers⟩ hfits hspells
  rw [Fields.putText_cons, Fields.toOption_put_cons]
  by_cases hname : key = name
  · rw [if_pos hname, if_pos hname, hfound hname, (hitem v hfits).whole_eq hspells]
    rfl
  · rw [if_neg hname, if_neg hname, hfields others key v text hothers hfits hspells]

/-- The members of a record are read as they are put together. -/
theorem StepAgrees.foldlM_putText {fields : Fields σ α} (h : StepAgrees room fields)
    {members : List (String × Value)} (hnodup : (keysOf members).Nodup)
    (hfits : ∀ m ∈ members, m.2.Fits room) {ds : List (String × List Char)}
    (hspells : List.Forall₂ SpellsEntry members ds) :
    ds.foldlM (putText (fields.step room)) fields.unread =
      (foldMembers (fun found key v => fields.put key v found) fields.unread
        (sortEntries (members.map fun m => (m.1, m.2.sorted)))).toOption := by
  rw [fields.commutes_put.toOption_foldMembers_sorted hnodup]
  -- As no key comes twice, the field of a member that is still to come is unfilled.
  refine foldlM_eq_foldMembers (P := fun state members => (keysOf members).Nodup ∧
    ∀ m ∈ members, m.2.Fits room ∧ fields.Unfilled state m.1) ?_ ?_ ?_ hspells
  · rintro state key v members text ⟨_, hall⟩ htext
    obtain ⟨hv, hunfilled⟩ := hall _ List.mem_cons_self
    exact h state key v text hunfilled hv htext
  · rintro state key v members next ⟨hkeys, hall⟩ hput
    obtain ⟨hnew, hothers⟩ := List.nodup_cons.mp hkeys
    refine ⟨hothers, fun m hm => ?_⟩
    obtain ⟨hm', hunfilled⟩ := hall m (List.mem_cons_of_mem _ hm)
    have hne : m.1 ≠ key := fun heq => hnew (heq ▸ List.mem_map.mpr ⟨m, hm, rfl⟩)
    exact ⟨hm', hunfilled.put hne hput⟩
  · exact ⟨hnodup, fun m hm => ⟨hfits m hm, fields.unfilled_unread m.1⟩⟩

theorem agrees_record {name : String} {fields : Fields σ α} {make : α → β} {split : β → α}
    (h : tree.Fits room) (hrow : ∀ fewer, RowAgrees name fields.count fewer 0 fields)
    (hstep : ∀ fewer, StepAgrees fewer fields) :
    ((Schema.record name fields make split).reader room).Agrees tree
      ((Schema.record name fields make split).ofValue tree.sorted) := by
  refine agrees_of_reads fun text hspells => ?_
  cases tree with
  | array trees =>
    obtain ⟨fewer, rfl, hfits⟩ := h.item
    obtain ⟨values, htext, hparts⟩ := hspells.exists_arrayText
    rw [Value.sorted_array, Schema.ofValue, toOption_map,
      ← hrow fewer _ trees values hfits hparts]
    exact Schema.reads_record_row htext
  | object trees =>
    obtain ⟨hnodup, fewer, rfl, hfits⟩ := h.member
    obtain ⟨ds, htext, hentries⟩ := hspells.exists_objectText
    rw [Value.sorted_object, Value.ofMembers, Schema.ofValue, toOption_map, toOption_bind,
      ← (hstep fewer).foldlM_putText hnodup hfits hentries]
    exact Schema.reads_record_members htext
  | _ =>
    obtain ⟨c, rest, rfl, hfirst⟩ := hspells.exists_start
    refine Schema.reads_record_other (startsValue_of_startsWith hfirst) ?_ ?_
    · rintro rfl
      cases hfirst
    · rintro rfl
      cases hfirst

end Reader

/-! ### Types -/

mutual

/-- A type is read from a spelling as it is converted from the value that is spelled. -/
theorem Schema.agrees : {α : Type} → (schema : Schema α) → (room : Nat) → (tree : Value) →
    tree.Fits room → (schema.reader room).Agrees tree (schema.ofValue tree.sorted)
  | _, .text, _, tree, _ => Reader.agrees_text tree
  | _, .list item, _, _, h => Reader.agrees_list h item.agrees
  | _, .table item, _, _, h => Reader.agrees_table h item.agrees
  | _, .record name fields _ _, _, _, h =>
    Reader.agrees_record h (fun fewer => fields.rowAgrees name fields.count fewer 0)
      fields.stepAgrees
  | _, .any _ _, _, _, h => Reader.agrees_any h
  | _, .choice _ _, _, _, h => Reader.agrees_choice h

theorem Fields.rowAgrees : {σ α : Type} → (fields : Fields σ α) → (record : String) →
    (total room index : Nat) → Reader.RowAgrees record total room index fields
  | _, _, .nil, _, _, _, _ => Reader.rowAgrees_nil
  | _, _, .cons _ item _ rest, record, total, room, index =>
    Reader.rowAgrees_cons (item.agrees room) (rest.rowAgrees record total room (index + 1))

theorem Fields.stepAgrees : {σ α : Type} → (fields : Fields σ α) → (room : Nat) →
    Reader.StepAgrees room fields
  | _, _, .nil, room => Reader.stepAgrees_nil room
  | _, _, .cons _ item _ rest, room =>
    Reader.stepAgrees_cons (item.agrees room) (rest.stepAgrees room)

end

/-! ### Documents -/

section documents

variable {α : Type} {source : String} {tree : Value}

/-- Around the value of a document there are blanks only. -/
theorem Reader.Agrees.document {reader : Reader α} {converted : Except Fault α}
    (h : reader.Agrees tree converted) (hspelled : Spelled source tree) :
    (reader.document source).toOption = converted.toOption := by
  obtain ⟨before, text, after, htext, hbefore, hafter, hspells⟩ := hspelled
  exact (h.reads hspells).document ⟨before, after, htext, hbefore, hafter⟩

/-- Reading a document of a type comes to the same as converting the value of the document. -/
theorem Schema.toOption_ofText (schema : Schema α) (hspelled : Spelled source tree)
    (hfits : tree.Fits depthLimit) :
    (schema.ofText source).toOption = (schema.ofValue tree.sorted).toOption :=
  (schema.agrees depthLimit tree hfits).document hspelled

/-- A spelled document is read exactly if there is room for it, as the sorted form of its tree. -/
theorem Value.ofText_eq_ok_iff (hspelled : Spelled source tree) {v : Value} :
    Value.ofText source = .ok v ↔ tree.depth ≤ depthLimit ∧ tree.sorted = v := by
  have hread := (Reader.agrees_value depthLimit tree).document hspelled
  rw [toOption_within] at hread
  constructor
  · intro h
    rw [Value.ofText] at h
    rw [h, toOption_ok] at hread
    split at hread
    · rename_i hdepth
      exact ⟨hdepth, (Option.some.inj hread).symm⟩
    · cases hread
  · rintro ⟨hdepth, rfl⟩
    rw [if_pos hdepth] at hread
    exact eq_ok_of_toOption hread

end documents

end ClusterAdvisor.Json
