import ClusterAdvisor.Proofs.KindReading

/-!
What readers make of a spelling. A reader agrees with a conversion on a tree if it takes every
spelling of the tree, whatever follows, and gives what the tree converts to, or fails if that fails.
What the parts of a tree are converted to is what the texts of the parts are read as.
-/

namespace ClusterAdvisor.Json

theorem toOption_convertAll_cons {α : Type} (convert : Value → Except Fault α) (v : Value)
    (vs : List Value) :
    (convertAll convert (v :: vs)).toOption = (convert v).toOption.bind fun a =>
      (convertAll convert vs).toOption.map (a :: ·) := by
  rw [convertAll]
  cases convert v with
  | error fault => rfl
  | ok a =>
    cases convertAll convert vs with
    | error fault => rfl
    | ok as => rfl

theorem toOption_foldMembers_cons {σ : Type} (step : σ → String → Value → Except Fault σ)
    (state : σ) (key : String) (v : Value) (members : List (String × Value)) :
    (foldMembers step state ((key, v) :: members)).toOption =
      (step state key v).toOption.bind fun state => (foldMembers step state members).toOption := by
  rw [foldMembers]
  cases step state key v with
  | error fault => rfl
  | ok next => rfl

namespace Reader

variable {α β σ : Type}

/-- On every spelling of the tree the reader gives the converted value and leaves what follows. -/
def Agrees (reader : Reader α) (tree : Value) (converted : Except Fault α) : Prop :=
  ∀ blanks text rest, Blank blanks → Spells tree text → EndsNumber rest →
    (reader.run (blanks ++ (text ++ rest))).toOption = converted.toOption.map (·, rest)

section agrees

variable {reader : Reader α} {tree : Value} {converted : Except Fault α} {text : List Char}

theorem agrees_of_reads (h : ∀ text, Spells tree text → reader.Reads text converted.toOption) :
    reader.Agrees tree converted :=
  fun blanks text rest hblank hspells hends => h text hspells blanks rest hblank hends

theorem Agrees.reads (h : reader.Agrees tree converted) (hspells : Spells tree text) :
    reader.Reads text converted.toOption :=
  fun blanks rest hblank hends => h blanks text rest hblank hspells hends

theorem Agrees.whole_eq (h : reader.Agrees tree converted) (hspells : Spells tree text) :
    reader.whole text = converted.toOption :=
  (h.reads hspells).whole_eq

theorem Agrees.map (h : reader.Agrees tree converted) (f : α → β) :
    (reader.map f).Agrees tree (converted.map f) := by
  refine agrees_of_reads fun text hspells => ?_
  rw [toOption_map]
  exact (h.reads hspells).map f

end agrees

end Reader

/-! ### Items -/

/-- The items of a spelling as they are read. -/
theorem Spells.exists_arrayText {trees : List Value} {v : List Char} (h : Spells (.array trees) v) :
    ∃ values, ArrayText values v ∧ List.Forall₂ Spells trees values := by
  obtain ⟨body, rfl, hbody⟩ := h.exists_items
  obtain ⟨values, hvalues, hparts⟩ := hbody.exists_texts
  refine ⟨values, .mk hvalues fun v hv => ?_, hparts⟩
  obtain ⟨tree, _, hspells⟩ := exists_left_of_forall₂ hparts hv
  exact hspells.wellFormed

/-- Reading the items of an array is converting them one after the other. -/
theorem mapM_whole {α : Type} {item : Reader α} {convert : Value → Except Fault α} {trees : List Value}
    {values : List (List Char)} (hitem : ∀ tree ∈ trees, item.Agrees tree (convert tree))
    (h : List.Forall₂ Spells trees values) :
    values.mapM item.whole = (convertAll convert trees).toOption := by
  induction h with
  | nil => rfl
  | @cons tree value trees values hspells _ ih =>
    rw [List.mapM_cons, (hitem tree List.mem_cons_self).whole_eq hspells,
      ih fun v hv => hitem v (List.mem_cons_of_mem tree hv), toOption_convertAll_cons]
    cases convert tree with
    | error fault => rfl
    | ok a => exact Option.map_eq_bind.symm

/-! ### Members -/

/-- The text of a value, with its key, spells a tree under the same key. -/
def SpellsEntry (tree : String × Value) (m : String × List Char) : Prop :=
  tree.1 = m.1 ∧ Spells tree.2 m.2

/-- Names are read by themselves, before any of the values is. -/
theorem keyed_of_spells {trees : List (String × Value)} {ms : List (List Char × List Char)}
    (h : List.Forall₂ SpellsMember trees ms) :
    ∃ ds, Reader.keyed ms = some ds ∧ List.Forall₂ SpellsEntry trees ds := by
  induction h with
  | nil => exact ⟨[], rfl, .nil⟩
  | @cons tree m trees ms hmember _ ih =>
    obtain ⟨ds, hds, hspells⟩ := ih
    refine ⟨(tree.1, m.2) :: ds, ?_, .cons ⟨rfl, hmember.2⟩ hspells⟩
    rw [Reader.keyed_cons, keyOf?_eq_some_iff.mpr hmember.1, hds]
    rfl

/-- The members of a spelling as they are read. -/
theorem SpellsMembers.exists_wellFormed {first : Bool} {trees : List (String × Value)}
    {text : List Char} (h : SpellsMembers first trees text) :
    ∃ ms, MembersText first ms text ∧ (∀ m ∈ ms, WellQuoted m.1) ∧ (∀ m ∈ ms, WellFormed m.2) ∧
      List.Forall₂ SpellsMember trees ms := by
  obtain ⟨ms, hms, hparts⟩ := h.exists_texts
  refine ⟨ms, hms, fun m hm => ?_, fun m hm => ?_, hparts⟩
  · obtain ⟨tree, _, hmember⟩ := exists_left_of_forall₂ hparts hm
    exact wellQuoted_of_textBody hmember.1
  · obtain ⟨tree, _, hmember⟩ := exists_left_of_forall₂ hparts hm
    exact hmember.2.wellFormed

theorem Spells.exists_objectText {trees : List (String × Value)} {v : List Char}
    (h : Spells (.object trees) v) : ∃ ds, ObjectText ds v ∧ List.Forall₂ SpellsEntry trees ds := by
  obtain ⟨body, rfl, hbody⟩ := h.exists_members
  obtain ⟨ms, hms, _, hvalues, hparts⟩ := hbody.exists_wellFormed
  obtain ⟨ds, hds, hentries⟩ := keyed_of_spells hparts
  exact ⟨ds, .mk hms hds hvalues, hentries⟩

/-- Reading the members of an object is putting them together one after the other. What holds of
the state and of the members that are still to come is kept in `P`. -/
theorem foldlM_eq_foldMembers {σ : Type} {read : σ → String × List Char → Option σ}
    {put : σ → String → Value → Except Fault σ} {P : σ → List (String × Value) → Prop}
    (hread : ∀ state key tree trees text, P state ((key, tree) :: trees) → Spells tree text →
      read state (key, text) = (put state key tree).toOption)
    (hkeep : ∀ state key tree trees next, P state ((key, tree) :: trees) →
      put state key tree = .ok next → P next trees)
    {state : σ} {trees : List (String × Value)} (hP : P state trees)
    {ds : List (String × List Char)} (h : List.Forall₂ SpellsEntry trees ds) :
    ds.foldlM read state = (foldMembers put state trees).toOption := by
  induction h generalizing state with
  | nil => rfl
  | @cons m d trees ds hentry _ ih =>
    obtain ⟨key, tree⟩ := m
    obtain ⟨_, text⟩ := d
    obtain ⟨rfl, hspells⟩ := hentry
    rw [List.foldlM_cons, hread state key tree trees text hP hspells, toOption_foldMembers_cons]
    cases hput : put state key tree with
    | error fault => rfl
    | ok next => exact ih (hkeep state key tree trees next hP hput)

/-! ### Values of any kind -/

/-- What reading leaves of a tree, if there is room for it. -/
def Value.within (room : Nat) (tree : Value) : Except Fault Value :=
  if tree.depth ≤ room then .ok tree.sorted else .error .tooDeep

/-- Room is all that reading asks of a tree. -/
theorem toOption_within (room : Nat) (tree : Value) :
    (tree.within room).toOption = if tree.depth ≤ room then some tree.sorted else none := by
  unfold Value.within
  split
  · rfl
  · rfl

theorem toOption_convertAll_within (room : Nat) (trees : List Value) :
    (convertAll (Value.within room) trees).toOption =
      if Value.depthItems trees ≤ room then some (trees.map Value.sorted) else none := by
  induction trees with
  | nil => simp [convertAll, Value.depthItems]
  | cons tree trees ih =>
    rw [toOption_convertAll_cons, ih, toOption_within, Value.depthItems]
    by_cases hfirst : tree.depth ≤ room
    · by_cases hothers : Value.depthItems trees ≤ room
      · rw [if_pos hfirst, if_pos hothers, if_pos (Nat.max_le.mpr ⟨hfirst, hothers⟩)]
        rfl
      · rw [if_pos hfirst, if_neg hothers, if_neg fun h => hothers (Nat.max_le.mp h).2]
        rfl
    · rw [if_neg hfirst, if_neg fun h => hfirst (Nat.max_le.mp h).1]
      rfl

theorem toOption_foldMembers_within (room : Nat) (state : List (String × Value))
    (trees : List (String × Value)) :
    (foldMembers (fun found key v => (v.within room).map (putEntry key · found)) state
        trees).toOption =
      if Value.depthMembers trees ≤ room then
        some ((trees.map fun m => (m.1, m.2.sorted)).foldl
          (fun sorted (key, value) => putEntry key value sorted) state)
      else none := by
  induction trees generalizing state with
  | nil => simp [foldMembers, Value.depthMembers]
  | cons head trees ih =>
    obtain ⟨key, tree⟩ := head
    rw [toOption_foldMembers_cons, toOption_map, toOption_within, Value.depthMembers]
    by_cases hfirst : tree.depth ≤ room
    · rw [if_pos hfirst, Option.map_some, Option.bind_some, ih]
      by_cases hothers : Value.depthMembers trees ≤ room
      · rw [if_pos hothers, if_pos (Nat.max_le.mpr ⟨hfirst, hothers⟩)]
        rfl
      · rw [if_neg hothers, if_neg fun h => hothers (Nat.max_le.mp h).2]
    · rw [if_neg hfirst, if_neg fun h => hfirst (Nat.max_le.mp h).1]
      rfl

namespace Reader

/-- One level of the induction in `agrees_value`: inside of brackets there is less room. -/
theorem agrees_valueIn {inner : Option (Reader Value)} {room : Nat} (tree : Value)
    (hnone : inner = none → room = 0)
    (hsome : ∀ item, inner = some item → ∃ fewer, room = fewer + 1 ∧
      (∀ v, item.Agrees v (v.within fewer)) ∧ ∀ text, WellFormed text → item.Uniform text) :
    (valueIn inner).Agrees tree (tree.within room) := by
  refine agrees_of_reads fun text hspells => ?_
  rw [toOption_within]
  cases tree with
  | array trees =>
    obtain ⟨values, ⟨hvalues, hwell⟩, hparts⟩ := hspells.exists_arrayText
    cases inner with
    | none =>
      rw [hnone rfl, if_neg (by simp [Value.depth])]
      exact reads_valueIn_none (.inl rfl)
    | some item =>
      obtain ⟨fewer, rfl, hitem, huniform⟩ := hsome item rfl
      have hread := reads_valueIn_array (fun v hv => ⟨hwell v hv, huniform v (hwell v hv)⟩) hvalues
      rw [mapM_whole (fun tree _ => hitem tree) hparts, toOption_convertAll_within] at hread
      rw [Value.depth, Value.sorted_array]
      simp only [Nat.add_le_add_iff_right]
      by_cases hdepth : Value.depthItems trees ≤ fewer
      · rwa [if_pos hdepth] at hread ⊢
      · rwa [if_neg hdepth] at hread ⊢
  | object trees =>
    obtain ⟨ds, ⟨hms, hkeys, hvalues⟩, hentries⟩ := hspells.exists_objectText
    cases inner with
    | none =>
      rw [hnone rfl, if_neg (by simp [Value.depth])]
      exact reads_valueIn_none (.inr rfl)
    | some item =>
      obtain ⟨fewer, rfl, hitem, huniform⟩ := hsome item rfl
      have hread := reads_valueIn_object (wellQuoted_of_keyed hkeys)
        (fun m hm => huniform m.2 (hvalues m hm)) hms
      have hfold : ds.foldlM (putValue item) [] =
          (foldMembers (fun found key v => (v.within fewer).map (putEntry key · found)) []
            trees).toOption := by
        refine foldlM_eq_foldMembers (P := fun _ _ => True) (fun found key tree _ text _ htext => ?_)
          (fun _ _ _ _ _ _ _ => trivial) trivial hentries
        rw [putValue, (hitem tree).whole_eq htext, toOption_map]
      rw [hkeys, Option.bind_some, hfold, toOption_foldMembers_within] at hread
      rw [Value.depth, Value.sorted_object]
      simp only [Nat.add_le_add_iff_right]
      by_cases hdepth : Value.depthMembers trees ≤ fewer
      · rwa [if_pos hdepth] at hread ⊢
      · rwa [if_neg hdepth] at hread ⊢
  | _ =>
    cases hspells with
    | scalar hscalar =>
      have hplain := (scalar_start hscalar).1
      rw [hplain.depth_eq, if_pos (Nat.zero_le room), hplain.sorted_eq,
        ← wholeOf_eq_some.mpr hscalar]
      exact reads_valueIn_scalar (wellFormedScalar_of_scalar hscalar)

theorem agrees_value (room : Nat) (tree : Value) : (value room).Agrees tree (tree.within room) := by
  induction room generalizing tree with
  | zero => exact agrees_valueIn tree (fun _ => rfl) fun item h => by cases h
  | succ room ih =>
    refine agrees_valueIn tree (fun h => by cases h) fun item h => ⟨room, rfl, ?_⟩
    cases h
    exact ⟨ih, fun _ hwell => uniform_value room hwell⟩

end Reader

end ClusterAdvisor.Json
