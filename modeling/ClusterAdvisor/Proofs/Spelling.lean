import ClusterAdvisor.Proofs.Tokens
import ClusterAdvisor.Proofs.ValueShape

/-!
How values are spelled, as a grammar that no reader takes part in above the level of tokens. The tree
of a document keeps the members of its objects as they are written; whatever is read as a value is
the sorted form of such a tree.
-/

namespace ClusterAdvisor.Json

/-- Nothing but characters that may stand between the parts of a document. -/
def Blank (blanks : List Char) : Prop := ∀ c ∈ blanks, isSpace c = true

/-- What stands in front of a part: blanks in front of the first one, and a comma among blanks in
front of any other. -/
inductive Lead : (first : Bool) → List Char → Prop where
  | first {blanks : List Char} (h : Blank blanks) : Lead true blanks
  | next {before after : List Char} (hbefore : Blank before) (hafter : Blank after) :
      Lead false (before ++ ',' :: after)

mutual

/-- The spellings of a value, without blanks around them. -/
inductive Spells : Value → List Char → Prop where
  | scalar {v : Value} {text : List Char} (h : scalar text = .ok (v, [])) : Spells v text
  | array {items : List Value} {text : List Char} (h : SpellsItems true items text) :
      Spells (.array items) ('[' :: text)
  | object {members : List (String × Value)} {text : List Char}
      (h : SpellsMembers true members text) : Spells (.object members) ('{' :: text)

/-- The spellings of the items of an array, with the bracket that closes it; `first` tells whether
they stand behind the opening bracket or behind another item. -/
inductive SpellsItems : (first : Bool) → List Value → List Char → Prop where
  | close {first : Bool} {blanks : List Char} (h : Blank blanks) :
      SpellsItems first [] (blanks ++ [']'])
  | item {first : Bool} {v : Value} {items : List Value} {lead text rest : List Char}
      (hlead : Lead first lead) (hv : Spells v text) (hrest : SpellsItems false items rest) :
      SpellsItems first (v :: items) (lead ++ (text ++ rest))

/-- The spellings of the members of an object, with the brace that closes it. -/
inductive SpellsMembers : (first : Bool) → List (String × Value) → List Char → Prop where
  | close {first : Bool} {blanks : List Char} (h : Blank blanks) :
      SpellsMembers first [] (blanks ++ ['}'])
  | member {first : Bool} {key : String} {v : Value} {members : List (String × Value)}
      {lead name before after text rest : List Char} (hlead : Lead first lead)
      (hkey : textBody name = .ok (key, [])) (hbefore : Blank before) (hafter : Blank after)
      (hv : Spells v text) (hrest : SpellsMembers false members rest) :
      SpellsMembers first ((key, v) :: members)
        (lead ++ '"' :: (name ++ (before ++ ':' :: (after ++ (text ++ rest)))))

end

/-- A document that is the spelling of a tree, with blanks around it. -/
def Spelled (document : String) (tree : Value) : Prop :=
  ∃ before text after, document.toList = before ++ (text ++ after) ∧ Blank before ∧ Blank after ∧
    Spells tree text

/-! ### Blanks -/

theorem blank_nil : Blank [] := fun _ hc => absurd hc List.not_mem_nil

theorem Blank.append {front back : List Char} (hfront : Blank front) (hback : Blank back) :
    Blank (front ++ back) :=
  fun c hc => (List.mem_append.mp hc).elim (hfront c) (hback c)

theorem Lead.append {first : Bool} {lead blanks : List Char} (h : Lead first lead)
    (hblanks : Blank blanks) : Lead first (lead ++ blanks) := by
  cases h with
  | first hfirst => exact .first (hfirst.append hblanks)
  | next hbefore hafter =>
    rw [List.append_assoc, List.cons_append]
    exact .next hbefore (hafter.append hblanks)

theorem skipSpace_append {blanks : List Char} (h : Blank blanks) (text : List Char) :
    skipSpace (blanks ++ text) = skipSpace text :=
  List.dropWhile_append_of_pos h

theorem skipSpace_cons {c : Char} (hc : isSpace c = false) (rest : List Char) :
    skipSpace (c :: rest) = c :: rest := by
  simp [skipSpace, hc]

theorem skipSpace_eq_nil {blanks : List Char} (h : Blank blanks) : skipSpace blanks = [] := by
  rw [← List.append_nil blanks, skipSpace_append h]
  rfl

/-- Skipping takes blanks off, up to a character that is none. -/
theorem exists_blank_of_skipSpace {text rest : List Char} (h : skipSpace text = rest) :
    ∃ blanks, Blank blanks ∧ text = blanks ++ rest :=
  ⟨text.takeWhile isSpace, fun c hc => List.all_eq_true.mp List.all_takeWhile c hc, by
    rw [← h, skipSpace, List.takeWhile_append_dropWhile]⟩

theorem endsNumber_blank_append {blanks rest : List Char} (hblanks : Blank blanks)
    (hrest : EndsNumber rest) : EndsNumber (blanks ++ rest) := by
  intro c hc
  rcases mem_head?_append hc with hblank | hother
  · have hspace := hblanks c (List.mem_of_mem_head? hblank)
    simp only [isSpace, Bool.or_eq_true, decide_eq_true_eq] at hspace
    rcases hspace with ((rfl | rfl) | rfl) | rfl
    all_goals rfl
  · exact hrest c hother

/-! ### How a value starts -/

def startsValue (c : Char) : Bool :=
  c = 'n' || c = 't' || c = 'f' || c = '"' || c = '-' || c.isDigit || c = '[' || c = '{'

/-- The first character tells whether blanks have ended. -/
theorem startsValue_eq_false_of_isSpace {c : Char} (h : isSpace c = true) :
    startsValue c = false := by
  simp only [isSpace, Bool.or_eq_true, decide_eq_true_eq] at h
  rcases h with ((rfl | rfl) | rfl) | rfl
  all_goals rfl

theorem isSpace_eq_false_of_startsValue {c : Char} (h : startsValue c = true) :
    isSpace c = false := by
  by_contra hspace
  rw [startsValue_eq_false_of_isSpace (by simpa using hspace)] at h
  cases h

def Value.startsWith : Value → Char → Bool
  | .null, c => c = 'n'
  | .bool _, c => c = 't' || c = 'f'
  | .integer _, c | .real _, c => c = '-' || c.isDigit
  | .text _, c => c = '"'
  | .array _, c => c = '['
  | .object _, c => c = '{'

theorem startsValue_of_startsWith {v : Value} {c : Char} (h : v.startsWith c = true) :
    startsValue c = true := by
  cases v with
  | null => simp_all [Value.startsWith, startsValue]
  | text s => simp_all [Value.startsWith, startsValue]
  | array items => simp_all [Value.startsWith, startsValue]
  | object members => simp_all [Value.startsWith, startsValue]
  | _ =>
    rw [Value.startsWith, Bool.or_eq_true] at h
    rcases h with hfirst | hsecond
    · simp [startsValue, hfirst]
    · simp [startsValue, hsecond]

theorem eq_of_constant {letters : String} {c v : Value} {text rest : List Char}
    (h : constant letters c text = .ok (v, rest)) : v = c := by
  unfold constant at h
  split at h
  · cases h
    rfl
  · cases h

theorem number_eq {text rest : List Char} {v : Value} (h : number text = .ok (v, rest)) :
    (∃ n, v = .integer n) ∨ ∃ x, v = .real x := by
  unfold number at h
  split at h
  · split at h
    · rename_i n _ _ value hvalue
      cases h
      unfold Numeral.value? at hvalue
      split at hvalue
      · cases hvalue
        exact Or.inl ⟨_, rfl⟩
      · obtain ⟨x, _, rfl⟩ := Option.map_eq_some_iff.mp hvalue
        exact Or.inr ⟨x, rfl⟩
    · cases h
  · cases h
  · cases h

/-- A value without parts has none, and its first character tells which kind it is of. -/
theorem scalar_start {text rest : List Char} {v : Value} (h : scalar text = .ok (v, rest)) :
    v.IsPlain ∧ ∃ c more, text = c :: more ∧ v.startsWith c = true := by
  unfold scalar at h
  split at h
  · cases h
  · rw [eq_of_constant h]
    exact ⟨trivial, _, _, rfl, rfl⟩
  · rw [eq_of_constant h]
    exact ⟨trivial, _, _, rfl, rfl⟩
  · rw [eq_of_constant h]
    exact ⟨trivial, _, _, rfl, rfl⟩
  · split at h
    · cases h
      exact ⟨trivial, _, _, rfl, rfl⟩
    · cases h
  · split at h
    · rename_i hstart
      rcases number_eq h with ⟨n, rfl⟩ | ⟨x, rfl⟩
      · exact ⟨trivial, _, _, rfl, hstart⟩
      · exact ⟨trivial, _, _, rfl, hstart⟩
    · cases h

/-- The kind of a value shows in the first character of its spelling. -/
theorem Spells.exists_start {v : Value} {text : List Char} (h : Spells v text) :
    ∃ c rest, text = c :: rest ∧ v.startsWith c = true := by
  cases h with
  | scalar h => exact (scalar_start h).2
  | array h => exact ⟨_, _, rfl, rfl⟩
  | object h => exact ⟨_, _, rfl, rfl⟩

theorem Spells.exists_items {items : List Value} {text : List Char} (h : Spells (.array items) text) :
    ∃ body, text = '[' :: body ∧ SpellsItems true items body := by
  cases h with
  | scalar h => exact (scalar_start h).1.elim
  | array h => exact ⟨_, rfl, h⟩

theorem Spells.exists_members {members : List (String × Value)} {text : List Char}
    (h : Spells (.object members) text) :
    ∃ body, text = '{' :: body ∧ SpellsMembers true members body := by
  cases h with
  | scalar h => exact (scalar_start h).1.elim
  | object h => exact ⟨_, rfl, h⟩

theorem Spells.exists_text {s : String} {text : List Char} (h : Spells (.text s) text) :
    ∃ body, text = '"' :: body ∧ textBody body = .ok (s, []) := by
  cases h with
  | scalar h =>
    obtain ⟨c, body, rfl, hstart⟩ := (scalar_start h).2
    have hquote : c = '"' := by simpa [Value.startsWith] using hstart
    subst hquote
    refine ⟨body, rfl, ?_⟩
    rw [Json.scalar] at h
    split at h
    · rename_i hbody
      cases h
      exact hbody
    · cases h

theorem Spells.exists_null {text : List Char} (h : Spells .null text) :
    ∃ body, text = 'n' :: body ∧ word "ull".toList body = .ok [] := by
  cases h with
  | scalar h =>
    obtain ⟨c, body, rfl, hstart⟩ := (scalar_start h).2
    have hletter : c = 'n' := by simpa [Value.startsWith] using hstart
    subst hletter
    refine ⟨body, rfl, ?_⟩
    rw [Json.scalar, constant] at h
    split at h
    · rename_i hword
      cases h
      exact hword
    · cases h

/-! ### Separators -/

section separators

variable {first : Bool} {text rest start blanks lead : List Char}

theorem nextItem_close (h : Blank blanks) (rest : List Char) :
    nextItem first (blanks ++ ']' :: rest) = .ok (.done rest) := by
  rw [nextItem, skipSpace_append h, skipSpace_cons (by rfl)]
  rfl

theorem nextItem_item {c : Char} (hlead : Lead first lead) (hc : startsValue c = true)
    (rest : List Char) : nextItem first (lead ++ c :: rest) = .ok (.more (c :: rest)) := by
  have hspace : isSpace c = false := isSpace_eq_false_of_startsValue hc
  have hclose : c ≠ ']' := by
    rintro rfl
    cases hc
  cases hlead with
  | first hblank =>
    rw [nextItem, skipSpace_append hblank, skipSpace_cons hspace]
    split
    · rename_i heq
      cases heq
    · rename_i heq
      cases heq
      exact absurd rfl hclose
    · rename_i heq
      cases heq
      rfl
    · rename_i heq
      cases heq
      rfl
  | next hbefore hafter =>
    rw [List.append_assoc, List.cons_append, nextItem, skipSpace_append hbefore,
      skipSpace_cons (by rfl)]
    simp only [Bool.false_eq_true, if_false]
    rw [skipSpace_append hafter, skipSpace_cons hspace]
    split
    · rename_i heq
      cases heq
    · rename_i heq
      cases heq
      exact absurd rfl hclose
    · rename_i heq
      cases heq
      rfl

theorem nextKey_close (h : Blank blanks) (rest : List Char) :
    nextKey first (blanks ++ '}' :: rest) = .ok (.done rest) := by
  rw [nextKey, skipSpace_append h, skipSpace_cons (by rfl)]
  rfl

theorem nextKey_key (hlead : Lead first lead) (rest : List Char) :
    nextKey first (lead ++ '"' :: rest) = .ok (.more rest) := by
  cases hlead with
  | first hblank =>
    rw [nextKey, skipSpace_append hblank, skipSpace_cons (by rfl)]
    rfl
  | next hbefore hafter =>
    rw [List.append_assoc, List.cons_append, nextKey, skipSpace_append hbefore,
      skipSpace_cons (by rfl)]
    simp only [Bool.false_eq_true, if_false]
    rw [skipSpace_append hafter, skipSpace_cons (by rfl)]
    rfl

theorem colon_append (h : Blank blanks) (rest : List Char) :
    colon (blanks ++ ':' :: rest) = .ok rest := by
  rw [colon, skipSpace_append h, skipSpace_cons (by rfl)]
  rfl

theorem exists_of_nextItem_done (h : nextItem first text = .ok (.done rest)) :
    ∃ blanks, Blank blanks ∧ text = blanks ++ ']' :: rest := by
  unfold nextItem at h
  split at h
  · cases h
  · rename_i hspace
    cases h
    exact exists_blank_of_skipSpace hspace
  · split at h
    · cases h
    · split at h <;> cases h
  · split at h <;> cases h

/-- The converse of `nextItem_item`: what was passed over may stand in front of an item. -/
theorem exists_of_nextItem_more (h : nextItem first text = .ok (.more start)) :
    ∃ lead, Lead first lead ∧ text = lead ++ start := by
  unfold nextItem at h
  split at h
  · cases h
  · cases h
  · rename_i hspace
    obtain ⟨before, hbefore, rfl⟩ := exists_blank_of_skipSpace hspace
    split at h
    · rename_i hfirst
      cases hfirst
      cases h
      exact ⟨before, .first hbefore, rfl⟩
    · rename_i hfirst
      split at h
      · cases h
      · cases h
      · rename_i hmore
        cases h
        obtain ⟨after, hafter, rfl⟩ := exists_blank_of_skipSpace hmore
        rw [Bool.not_eq_true] at hfirst
        subst hfirst
        exact ⟨_, .next hbefore hafter, by simp⟩
  · rename_i hspace
    obtain ⟨before, hbefore, rfl⟩ := exists_blank_of_skipSpace hspace
    split at h
    · rename_i hfirst
      cases hfirst
      cases h
      exact ⟨before, .first hbefore, rfl⟩
    · cases h

theorem exists_of_nextKey_done (h : nextKey first text = .ok (.done rest)) :
    ∃ blanks, Blank blanks ∧ text = blanks ++ '}' :: rest := by
  unfold nextKey at h
  split at h
  · cases h
  · rename_i hspace
    cases h
    exact exists_blank_of_skipSpace hspace
  · split at h <;> cases h
  · split at h
    · cases h
    · split at h <;> cases h
  · cases h

/-- The converse of `nextKey_key`. -/
theorem exists_of_nextKey_more (h : nextKey first text = .ok (.more start)) :
    ∃ lead, Lead first lead ∧ text = lead ++ '"' :: start := by
  unfold nextKey at h
  split at h
  · cases h
  · cases h
  · rename_i hspace
    obtain ⟨before, hbefore, rfl⟩ := exists_blank_of_skipSpace hspace
    split at h
    · rename_i hfirst
      cases hfirst
      cases h
      exact ⟨before, .first hbefore, rfl⟩
    · cases h
  · rename_i hspace
    obtain ⟨before, hbefore, rfl⟩ := exists_blank_of_skipSpace hspace
    split at h
    · cases h
    · rename_i hfirst
      split at h
      · cases h
      · rename_i hmore
        cases h
        obtain ⟨after, hafter, rfl⟩ := exists_blank_of_skipSpace hmore
        rw [Bool.not_eq_true] at hfirst
        subst hfirst
        exact ⟨_, .next hbefore hafter, by simp⟩
      · cases h
      · cases h
  · cases h

theorem exists_of_colon (h : colon text = .ok rest) :
    ∃ blanks, Blank blanks ∧ text = blanks ++ ':' :: rest := by
  unfold colon at h
  split at h
  · cases h
  · rename_i hspace
    cases h
    exact exists_blank_of_skipSpace hspace
  · cases h

end separators

/-! ### What is read is spelled -/

namespace Reader

/-- Whatever the reader takes off a text is a spelling of a tree, within its room, and the sorted
form of the tree is what was read. -/
def TakesSpelled (reader : Reader Value) (room : Nat) : Prop :=
  ∀ {text : List Char} {v : Value} {rest : List Char}, reader.run text = .ok (v, rest) →
    ∃ blanks taken tree, Blank blanks ∧ Spells tree taken ∧ text = blanks ++ (taken ++ rest) ∧
      tree.depth ≤ room ∧ tree.sorted = v

variable {item : Reader Value} {room : Nat} {first : Bool} {text rest : List Char}

/-- By induction over the items as they are taken off the text. -/
theorem TakesSpelled.items (hitem : item.TakesSpelled room) {vs : List Value}
    (h : items item first text = .ok (vs, rest)) :
    ∃ taken trees, SpellsItems first trees taken ∧ text = taken ++ rest ∧
      (∀ tree ∈ trees, tree.depth ≤ room) ∧ trees.map Value.sorted = vs := by
  fun_induction Reader.items item first text generalizing vs with
  | case1 => cases h
  | case2 first text left hnext =>
    cases h
    obtain ⟨blanks, hblank, rfl⟩ := exists_of_nextItem_done hnext
    exact ⟨_, [], .close hblank, by simp, by simp, rfl⟩
  | case3 => cases h
  | case4 => cases h
  | case5 first text start hnext v left hrun hshort more final hmore ih =>
    cases h
    obtain ⟨lead, hlead, rfl⟩ := exists_of_nextItem_more hnext
    -- The blanks that the item's reader passes over belong to what leads up to the item.
    obtain ⟨blanks, taken, tree, hblank, hspells, rfl, hdepth, rfl⟩ := hitem hrun
    obtain ⟨others, trees, hothers, rfl, hdepths, rfl⟩ := ih hmore
    refine ⟨_, tree :: trees, .item (hlead.append hblank) hspells hothers, by simp, ?_, rfl⟩
    rw [List.forall_mem_cons]
    exact ⟨hdepth, hdepths⟩

/-- By induction over the members as they are taken off the text; of two with one key the tree keeps
both and its sorted form the later. -/
theorem TakesSpelled.members (hitem : item.TakesSpelled room)
    {state final : List (String × Value)}
    (h : members (fun key found => .ok (item.map (putEntry key · found))) first state text =
      .ok (final, rest)) :
    ∃ taken trees, SpellsMembers first trees taken ∧ text = taken ++ rest ∧
      (∀ m ∈ trees, m.2.depth ≤ room) ∧
      (trees.map fun m => (m.1, m.2.sorted)).foldl
        (fun sorted (key, value) => putEntry key value sorted) state = final := by
  fun_induction Reader.members _ first state text with
  | case1 => cases h
  | case2 first state text left hnext =>
    cases h
    obtain ⟨blanks, hblank, rfl⟩ := exists_of_nextKey_done hnext
    exact ⟨_, [], .close hblank, by simp, by simp, rfl⟩
  | case3 => cases h
  | case4 => cases h
  | case5 => cases h
  | case6 => cases h
  | case7 first state text start hnext key left hkey reader hstep behind hcolon found more hvalue
      _ ih =>
    cases hstep
    obtain ⟨lead, hlead, rfl⟩ := exists_of_nextKey_more hnext
    obtain ⟨name, rfl, hname⟩ := detachable_textBody hkey
    obtain ⟨before, hbefore, rfl⟩ := exists_of_colon hcolon
    simp only [Reader.map] at hvalue
    split at hvalue
    · rename_i v final' hrun
      cases hvalue
      obtain ⟨after, taken, tree, hafter, hspells, rfl, hdepth, rfl⟩ := hitem hrun
      obtain ⟨others, trees, hothers, rfl, hdepths, hfold⟩ := ih h
      have hname' : textBody name = .ok (key, []) := by simpa using hname [] trivial
      refine ⟨_, (key, tree) :: trees,
        .member hlead hname' hbefore hafter hspells hothers, by simp, ?_, hfold⟩
      rw [List.forall_mem_cons]
      exact ⟨hdepth, hdepths⟩
    · cases hvalue

theorem exists_of_spaced {α : Type} {f : List Char → Except Fault (α × List Char)}
    {hf : ∀ {text a rest}, f text = .ok (a, rest) → rest.length < text.length} {a : α}
    (h : (spaced f @hf).run text = .ok (a, rest)) :
    ∃ blanks start, Blank blanks ∧ text = blanks ++ start ∧ f start = .ok (a, rest) := by
  simp only [spaced] at h
  split at h
  · cases h
  · rename_i hspace
    obtain ⟨blanks, hblank, rfl⟩ := exists_blank_of_skipSpace hspace
    exact ⟨blanks, _, hblank, rfl, h⟩

theorem takesSpelled_valueIn {inner : Option (Reader Value)}
    (hinner : ∀ item ∈ inner, ∃ fewer, room = fewer + 1 ∧ item.TakesSpelled fewer) :
    (valueIn inner).TakesSpelled room := by
  intro text v rest h
  unfold valueIn at h
  obtain ⟨blanks, start, hblank, rfl, hstart⟩ := exists_of_spaced h
  split at hstart
  · cases inner with
    | none => cases hstart
    | some item =>
      dsimp only at hstart
      split at hstart
      · rename_i hitems
        cases hstart
        obtain ⟨fewer, rfl, hitem⟩ := hinner item rfl
        obtain ⟨taken, trees, hspells, rfl, hdepths, rfl⟩ := TakesSpelled.items hitem hitems
        refine ⟨blanks, _, .array trees, hblank, .array hspells, rfl, ?_, Value.sorted_array trees⟩
        exact Value.depth_array_le_iff.mpr hdepths
      · cases hstart
  · cases inner with
    | none => cases hstart
    | some item =>
      dsimp only at hstart
      split at hstart
      · rename_i hmembers
        cases hstart
        obtain ⟨fewer, rfl, hitem⟩ := hinner item rfl
        obtain ⟨taken, trees, hspells, rfl, hdepths, rfl⟩ := TakesSpelled.members hitem hmembers
        refine ⟨blanks, _, .object trees, hblank, .object hspells, rfl, ?_,
          Value.sorted_object trees⟩
        exact Value.depth_object_le_iff.mpr hdepths
      · cases hstart
  · obtain ⟨taken, rfl, hagain⟩ := detachable_scalar hstart
    have hscalar : scalar taken = .ok (v, []) := by simpa using hagain [] endsNumber_nil
    have hplain : v.IsPlain := (scalar_start hstart).1
    refine ⟨blanks, taken, v, hblank, .scalar hscalar, rfl, ?_, hplain.sorted_eq⟩
    rw [hplain.depth_eq]
    exact Nat.zero_le room

/-- By induction on the room. -/
theorem takesSpelled_value (room : Nat) : (value room).TakesSpelled room := by
  induction room with
  | zero => exact takesSpelled_valueIn fun item h => by cases h
  | succ room ih =>
    refine takesSpelled_valueIn fun item h => ⟨room, rfl, ?_⟩
    cases h
    exact ih

end Reader

/-- A document that can be read spells a tree whose sorted form is what was read. -/
theorem exists_spelled_of_ofText {text : String} {v : Value} (h : Value.ofText text = .ok v) :
    ∃ tree, Spelled text tree ∧ tree.depth ≤ depthLimit ∧ tree.sorted = v := by
  unfold Value.ofText Reader.document at h
  split at h
  · cases h
  · rename_i found rest hrun
    split at h
    · rename_i hrest
      cases h
      obtain ⟨before, taken, tree, hbefore, hspells, htext, hdepth, hsorted⟩ :=
        Reader.takesSpelled_value depthLimit hrun
      obtain ⟨after, hafter, rfl⟩ := exists_blank_of_skipSpace (List.isEmpty_iff.mp hrest)
      rw [List.append_nil] at htext
      exact ⟨tree, ⟨before, taken, after, htext, hbefore, hafter, hspells⟩, hdepth, hsorted⟩
    · cases h

end ClusterAdvisor.Json
