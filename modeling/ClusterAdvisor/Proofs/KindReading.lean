import ClusterAdvisor.Proofs.Reading

/-!
Values of each kind, read from the texts of their parts: texts, lists, objects, values of any kind,
variants, and records in either form. No reader of a kind looks at what is around its value.
-/

namespace ClusterAdvisor.Json

variable {α β σ : Type}

namespace Reader

/-! ### Values of one kind -/

/-- Blanks in front of a value are passed over, and nothing else is. -/
theorem spaced_run {f : List Char → Except Fault (α × List Char)}
    {hf : ∀ {text a rest}, f text = .ok (a, rest) → rest.length < text.length}
    {blanks : List Char} {c : Char} (hblank : Blank blanks) (hc : startsValue c = true)
    (rest : List Char) : (spaced f @hf).run (blanks ++ c :: rest) = f (c :: rest) := by
  simp only [spaced]
  rw [skipSpace_append hblank, skipSpace_cons (isSpace_eq_false_of_startsValue hc)]

/-- What a reader gives has to be shown only from the first character of a value on. -/
theorem reads_spaced {f : List Char → Except Fault (α × List Char)}
    {hf : ∀ {text a rest}, f text = .ok (a, rest) → rest.length < text.length} {c : Char}
    {text : List Char} {result : Option α} (hc : startsValue c = true)
    (h : ∀ rest, EndsNumber rest →
      (f (c :: (text ++ rest))).toOption = result.map (·, rest)) :
    (spaced f @hf).Reads (c :: text) result := by
  intro blanks rest hblank hends
  rw [List.cons_append, spaced_run hblank hc]
  exact h rest hends

theorem reads_text {body : List Char} (h : WellQuoted body) :
    Reader.text.Reads ('"' :: body) (keyOf? body) :=
  reads_spaced rfl fun rest _ => toOption_textBody h rest

/-- What is no text is not read as one. -/
theorem reads_text_other {c : Char} {text : List Char} (hc : startsValue c = true)
    (hquote : c ≠ '"') : Reader.text.Reads (c :: text) none := by
  refine reads_spaced hc fun rest _ => ?_
  split
  · rename_i heq
    cases heq
    exact absurd rfl hquote
  · rfl

theorem uniform_text {value : List Char} (h : WellFormed value) : Reader.text.Uniform value := by
  obtain ⟨c, text, rfl, hc⟩ := h.exists_start
  by_cases hquote : c = '"'
  · subst hquote
    exact (reads_text h.wellQuoted).uniform
  · exact (reads_text_other hc hquote).uniform

/-- As its items do not depend on what is around them, an array is read as the list of what they are
read as by themselves. -/
theorem reads_list {item : Reader α} {values : List (List Char)} {text : List Char}
    (hvalues : ∀ v ∈ values, WellFormed v ∧ item.Uniform v) (h : ItemsText true values text) :
    (list (some item)).Reads ('[' :: text) (values.mapM item.whole) :=
  reads_spaced rfl fun rest _ => toOption_itemsText hvalues h rest

theorem reads_list_none {c : Char} {text : List Char} (hc : startsValue c = true) :
    (list (none : Option (Reader α))).Reads (c :: text) none := by
  refine reads_spaced hc fun rest _ => ?_
  split <;> rfl

/-- What is no array is not read as a list. -/
theorem reads_list_other {inner : Option (Reader α)} {c : Char} {text : List Char}
    (hc : startsValue c = true) (hlist : c ≠ '[') : (list inner).Reads (c :: text) none := by
  refine reads_spaced hc fun rest _ => ?_
  split
  · rename_i heq
    cases heq
    exact absurd rfl hlist
  · rfl

theorem uniform_list {inner : Option (Reader α)} {value : List Char} (h : WellFormed value)
    (hinner : ∀ item ∈ inner, ∀ v, WellFormed v → item.Uniform v) : (list inner).Uniform value := by
  obtain ⟨c, text, rfl, hc⟩ := h.exists_start
  by_cases hlist : c = '['
  · subst hlist
    obtain ⟨values, htext, hvalues⟩ := h.exists_items
    cases inner with
    | none => exact (reads_list_none hc).uniform
    | some item =>
      exact (reads_list (fun v hv => ⟨hvalues v hv, hinner item rfl v (hvalues v hv)⟩) htext).uniform
  · exact (reads_list_other hc hlist).uniform

/-- The members are read in order, each in the way that its key decides on; a name that spells no
key refuses them all. -/
theorem reads_object {step : String → σ → Except Fault (Reader σ)} {start : σ} {expected : Expected}
    {ms : List (List Char × List Char)} {text : List Char} (hnames : ∀ m ∈ ms, WellQuoted m.1)
    (hvalues : ∀ m ∈ ms, ∀ key state reader, step key state = .ok reader → reader.Uniform m.2)
    (h : MembersText true ms text) :
    (object (some step) start expected).Reads ('{' :: text)
      ((keyed ms).bind fun ms => ms.foldlM (putText step) start) :=
  reads_spaced rfl fun rest _ => toOption_membersText hnames hvalues h rest

/-- The members of an object whose names spell keys are read one after the other. -/
theorem reads_object_keyed {step : String → σ → Except Fault (Reader σ)} {start : σ}
    {expected : Expected} {ds : List (String × List Char)} {v : List Char}
    (hstep : ∀ key state reader, step key state = .ok reader → ∀ w, WellFormed w →
      reader.Uniform w) (h : ObjectText ds v) :
    (object (some step) start expected).Reads v (ds.foldlM (putText step) start) := by
  cases h with
  | mk htext hkeys hvalues =>
    have hread := @reads_object _ _ start expected _ _ (wellQuoted_of_keyed hkeys)
      (fun m hm key state reader hreader => hstep key state reader hreader m.2 (hvalues m hm)) htext
    rwa [hkeys] at hread

theorem reads_object_none {start : σ} {expected : Expected} {c : Char} {text : List Char}
    (hc : startsValue c = true) : (object none start expected).Reads (c :: text) none := by
  refine reads_spaced hc fun rest _ => ?_
  split <;> rfl

/-- What is no object has no members. -/
theorem reads_object_other {step : Option (String → σ → Except Fault (Reader σ))} {start : σ}
    {expected : Expected} {c : Char} {text : List Char} (hc : startsValue c = true)
    (hobject : c ≠ '{') : (object step start expected).Reads (c :: text) none := by
  refine reads_spaced hc fun rest _ => ?_
  split
  · rename_i heq
    cases heq
    exact absurd rfl hobject
  · rfl

theorem uniform_object {step : Option (String → σ → Except Fault (Reader σ))} {start : σ}
    {expected : Expected} {value : List Char} (h : WellFormed value)
    (hstep : ∀ step' ∈ step, ∀ key state reader, step' key state = .ok reader → ∀ v, WellFormed v →
      reader.Uniform v) : (object step start expected).Uniform value := by
  obtain ⟨c, text, rfl, hc⟩ := h.exists_start
  by_cases hobject : c = '{'
  · subst hobject
    obtain ⟨ms, htext, hnames, hvalues⟩ := h.exists_members
    cases step with
    | none => exact (reads_object_none hc).uniform
    | some step =>
      exact (reads_object hnames (fun m hm key state reader hread =>
        hstep step rfl key state reader hread m.2 (hvalues m hm)) htext).uniform
  · exact (reads_object_other hc hobject).uniform

/-- What is passed over is well formed and may be anything else. -/
theorem reads_skip {value : List Char} (h : WellFormed value) : skip.Reads value (some ()) := by
  intro blanks rest hblank hends
  rw [skip_run_wellFormed h hblank hends]
  rfl

/-! ### Values of any kind -/

theorem reads_valueIn_none {c : Char} {text : List Char} (hc : c = '[' ∨ c = '{') :
    (valueIn none).Reads (c :: text) none := by
  rcases hc with rfl | rfl
  all_goals exact reads_spaced rfl fun rest _ => rfl

theorem reads_valueIn_scalar {inner : Option (Reader Value)} {text : List Char}
    (h : WellFormedScalar text) : (valueIn inner).Reads text (wholeOf scalar text) := by
  obtain ⟨c, text, rfl, hc, hlist, hobject⟩ := h.exists_start
  refine reads_spaced hc fun rest hends => ?_
  split
  · rename_i heq
    cases heq
    exact absurd rfl hlist
  · rename_i heq
    cases heq
    exact absurd rfl hobject
  · exact toOption_scalar h hends

theorem reads_valueIn_array {item : Reader Value} {values : List (List Char)} {text : List Char}
    (hvalues : ∀ v ∈ values, WellFormed v ∧ item.Uniform v) (h : ItemsText true values text) :
    (valueIn (some item)).Reads ('[' :: text) ((values.mapM item.whole).map .array) := by
  refine reads_spaced rfl fun rest hends => ?_
  have hitems := toOption_itemsText hvalues h rest
  simp only
  generalize values.mapM item.whole = result at hitems ⊢
  cases result with
  | none =>
    obtain ⟨fault, hfault⟩ := exists_error_of_toOption hitems
    rw [hfault]
    rfl
  | some as =>
    rw [eq_ok_of_toOption hitems]
    rfl

def putValue (item : Reader Value) (found : List (String × Value)) (m : String × List Char) :
    Option (List (String × Value)) :=
  (item.whole m.2).map (putEntry m.1 · found)

theorem reads_valueIn_object {item : Reader Value} {ms : List (List Char × List Char)}
    {text : List Char} (hnames : ∀ m ∈ ms, WellQuoted m.1)
    (hvalues : ∀ m ∈ ms, item.Uniform m.2) (h : MembersText true ms text) :
    (valueIn (some item)).Reads ('{' :: text)
      (((keyed ms).bind fun ms => ms.foldlM (putValue item) []).map .object) := by
  refine reads_spaced rfl fun rest hends => ?_
  have hput : putText (fun key found => .ok (item.map (putEntry key · found))) = putValue item := by
    funext found m
    exact whole_map item _ m.2
  have hmembers : (members (fun key found => .ok (item.map (putEntry key · found))) true []
        (text ++ rest)).toOption =
      ((keyed ms).bind fun ms => ms.foldlM (putText fun key found =>
        .ok (item.map (putEntry key · found))) []).map (·, rest) :=
    toOption_membersText hnames (fun m hm key found reader hstep => by
      cases hstep
      exact (hvalues m hm).map _) h rest
  rw [hput] at hmembers
  simp only
  generalize (keyed ms).bind (fun ms => ms.foldlM (putValue item) []) = result at hmembers ⊢
  cases result with
  | none =>
    obtain ⟨fault, hfault⟩ := exists_error_of_toOption hmembers
    rw [hfault]
    rfl
  | some entries =>
    rw [eq_ok_of_toOption hmembers]
    rfl

theorem uniform_valueIn {inner : Option (Reader Value)} {value : List Char} (h : WellFormed value)
    (hinner : ∀ item ∈ inner, ∀ v, WellFormed v → item.Uniform v) :
    (valueIn inner).Uniform value := by
  cases h with
  | scalar hscalar => exact (reads_valueIn_scalar hscalar).uniform
  | @array values text htext hvalues =>
    cases inner with
    | none => exact (reads_valueIn_none (.inl rfl)).uniform
    | some item =>
      exact (reads_valueIn_array (fun v hv =>
        ⟨hvalues v hv, hinner item rfl v (hvalues v hv)⟩) htext).uniform
  | @object ms text htext hnames hvalues =>
    cases inner with
    | none => exact (reads_valueIn_none (.inr rfl)).uniform
    | some item =>
      exact (reads_valueIn_object hnames (fun m hm =>
        hinner item rfl m.2 (hvalues m hm)) htext).uniform

/-- By induction on the room: what is around a value never changes how it is read. -/
theorem uniform_value (room : Nat) {value : List Char} (h : WellFormed value) :
    (Reader.value room).Uniform value := by
  induction room generalizing value with
  | zero => exact uniform_valueIn h fun item hitem => by cases hitem
  | succ room ih =>
    refine uniform_valueIn h fun item hitem v hv => ?_
    cases hitem
    exact ih hv

/-! ### Variants -/

theorem reads_unit_null : unit.Reads "null".toList (some ()) := by
  have hword := word_append "ull".toList
  refine @reads_spaced _ _ _ 'n' "ull".toList _ rfl fun rest _ => ?_
  simp only [hword]
  rfl

theorem reads_unit_other {value : List Char} (h : WellFormed value) (hnull : value ≠ "null".toList) :
    unit.Reads value none := by
  obtain ⟨c, text, rfl, hc⟩ := h.exists_start
  refine reads_spaced hc fun rest _ => ?_
  split
  · rename_i heq
    cases heq
    exact absurd h.eq_null hnull
  · rfl

theorem uniform_unit {value : List Char} (h : WellFormed value) : unit.Uniform value := by
  by_cases hnull : value = "null".toList
  · rw [hnull]
    exact reads_unit_null.uniform
  · exact (reads_unit_other h hnull).uniform

theorem toOption_variantName {variants : List (String × α)} {name : List Char} (h : WellQuoted name)
    (rest : List Char) :
    (variantName variants (name ++ rest)).toOption =
      ((keyOf? name).bind fun key => (findVariant variants key).toOption).map (·, rest) := by
  have hbody := toOption_textBody h rest
  rw [variantName]
  cases hkey : keyOf? name with
  | none =>
    rw [hkey] at hbody
    obtain ⟨fault, hfault⟩ := exists_error_of_toOption hbody
    rw [hfault]
    rfl
  | some key =>
    rw [hkey] at hbody
    rw [eq_ok_of_toOption hbody]
    simp only [Option.bind_some]
    cases findVariant variants key with
    | error fault => rfl
    | ok a => rfl

/-- An object stands for a variant only if it has one member. -/
theorem toOption_closingBrace {ms : List (List Char × List Char)} {text : List Char}
    (h : MembersText false ms text) (rest : List Char) :
    (closingBrace (text ++ rest)).toOption = if ms.isEmpty then some rest else none := by
  cases h with
  | close hblank =>
    rw [closingBrace, List.append_assoc, skipSpace_append hblank]
    rfl
  | member hlead =>
    cases hlead with
    | next hfront hback =>
      simp only [closingBrace, List.append_assoc, List.cons_append]
      rw [skipSpace_append hfront, skipSpace_cons (by rfl)]
      rfl

/-- The variant that the members of an object stand for: there is one, named as the variant, and it
is null. -/
def soleVariant (variants : List (String × α)) : List (List Char × List Char) → Option α
  | [] => none
  | (name, value) :: others =>
    ((keyOf? name).bind fun key => (findVariant variants key).toOption).bind fun a =>
      (unit.whole value).bind fun _ => if others.isEmpty then some a else none

theorem toOption_variantObject {variants : List (String × α)} {ms : List (List Char × List Char)}
    {text : List Char} (hnames : ∀ m ∈ ms, WellQuoted m.1) (hvalues : ∀ m ∈ ms, WellFormed m.2)
    (h : MembersText true ms text) (rest : List Char) :
    (variantObject variants (text ++ rest)).toOption = (soleVariant variants ms).map (·, rest) := by
  cases h with
  | close hblank =>
    rw [variantObject, List.append_assoc, skipSpace_append hblank]
    rfl
  | @member _ name value ms lead before after behind hlead hbefore hafter hbehind =>
    cases hlead with
    | first hblank =>
      have hname := @toOption_variantName _ variants _ (hnames _ List.mem_cons_self)
        (before ++ ':' :: (after ++ (value ++ (behind ++ rest))))
      have hunit := uniform_unit (hvalues _ List.mem_cons_self) after (behind ++ rest) hafter
        (hbehind.endsNumber rest)
      have hbrace := toOption_closingBrace hbehind rest
      simp only [variantObject, List.append_assoc, List.cons_append]
      rw [skipSpace_append hblank, skipSpace_cons (by rfl)]
      simp only [soleVariant]
      cases hfind : (keyOf? name).bind fun key => (findVariant variants key).toOption with
      | none =>
        rw [hfind] at hname
        obtain ⟨fault, hfault⟩ := exists_error_of_toOption hname
        rw [hfault]
        rfl
      | some a =>
        rw [hfind] at hname
        rw [eq_ok_of_toOption hname]
        simp only [colon_append hbefore, Option.bind_some]
        cases hwhole : unit.whole value with
        | none =>
          rw [hwhole] at hunit
          obtain ⟨fault, hfault⟩ := exists_error_of_toOption hunit
          rw [hfault]
          rfl
        | some u =>
          rw [hwhole] at hunit
          rw [eq_ok_of_toOption hunit]
          simp only [Option.bind_some]
          by_cases hlast : ms.isEmpty = true
          · rw [if_pos hlast] at hbrace ⊢
            rw [eq_ok_of_toOption hbrace]
            rfl
          · rw [if_neg hlast] at hbrace ⊢
            obtain ⟨fault, hfault⟩ := exists_error_of_toOption hbrace
            rw [hfault]
            rfl

theorem reads_choice_text {variants : List (String × α)} {room : Nat} {body : List Char}
    (h : WellQuoted body) :
    (choice variants room).Reads ('"' :: body)
      ((keyOf? body).bind fun key => (findVariant variants key).toOption) :=
  reads_spaced rfl fun rest _ => toOption_variantName h rest

theorem reads_choice_object {variants : List (String × α)} {room : Nat}
    {ms : List (List Char × List Char)} {text : List Char} (hnames : ∀ m ∈ ms, WellQuoted m.1)
    (hvalues : ∀ m ∈ ms, WellFormed m.2) (h : MembersText true ms text) :
    (choice variants room).Reads ('{' :: text)
      (if room = 0 then none else soleVariant variants ms) := by
  refine reads_spaced rfl fun rest _ => ?_
  simp only
  split
  · rfl
  · exact toOption_variantObject hnames hvalues h rest

theorem reads_choice_other {variants : List (String × α)} {room : Nat} {c : Char} {text : List Char}
    (hc : startsValue c = true) (hquote : c ≠ '"') (hobject : c ≠ '{') :
    (choice variants room).Reads (c :: text) none := by
  refine reads_spaced hc fun rest _ => ?_
  split
  · rename_i heq
    cases heq
    exact absurd rfl hquote
  · rename_i heq
    cases heq
    exact absurd rfl hobject
  · rfl

theorem uniform_choice (variants : List (String × α)) (room : Nat) {value : List Char}
    (h : WellFormed value) : (choice variants room).Uniform value := by
  obtain ⟨c, text, rfl, hc⟩ := h.exists_start
  by_cases hquote : c = '"'
  · subst hquote
    exact (reads_choice_text h.wellQuoted).uniform
  · by_cases hobject : c = '{'
    · subst hobject
      obtain ⟨ms, htext, hnames, hvalues⟩ := h.exists_members
      exact (reads_choice_object hnames hvalues htext).uniform
    · exact (reads_choice_other hc hquote hobject).uniform

/-! ### Rows -/

/-- The reader takes the texts of all values up to the closing bracket. -/
def ReadsRow (row : Reader α) (first : Bool) (values : List (List Char)) (result : Option α) :
    Prop :=
  ∀ text rest, ItemsText first values text → (row.run (text ++ rest)).toOption = result.map (·, rest)

/-- More values than there are fields are refused. -/
theorem readsRow_closingBracket {first : Bool} {values : List (List Char)}
    (hvalues : ∀ v ∈ values, WellFormed v) :
    closingBracket.ReadsRow first values (if values.isEmpty then some () else none) := by
  intro text rest h
  cases h with
  | close hblank =>
    simp only [closingBracket, List.append_assoc]
    rw [skipSpace_append hblank]
    rfl
  | @item _ v _ lead behind hlead hbehind =>
    cases hlead with
    | first hblank =>
      obtain ⟨c, more, rfl, hstart⟩ := (hvalues v List.mem_cons_self).exists_start
      simp only [closingBracket, List.append_assoc, List.cons_append]
      rw [skipSpace_append hblank, skipSpace_cons (isSpace_eq_false_of_startsValue hstart)]
      split
      · rename_i heq
        cases heq
      · rename_i heq
        cases heq
        cases hstart
      · split
        · rfl
        · rfl
      · rfl
    | next hfront hback =>
      simp only [closingBracket, List.append_assoc, List.cons_append]
      rw [skipSpace_append hfront, skipSpace_cons (by rfl)]
      simp only
      split
      · rfl
      · rfl

section field

variable {first : Bool} {absent : Except Fault (α × β)} {item : Reader α} {others : Reader β}

/-- An array that ends early leaves its fields to what stands for them. -/
theorem readsRow_field_nil : (field first absent item others).ReadsRow first [] absent.toOption := by
  intro text rest h
  cases h with
  | close hblank =>
    rw [List.append_assoc, List.singleton_append]
    simp only [field, nextItem_close hblank rest]
    cases absent with
    | error fault => rfl
    | ok found => rfl

/-- A field takes one value of the row, and those behind it the others. -/
theorem readsRow_field_cons {value : List Char} {values : List (List Char)} {result : Option β}
    (hwell : WellFormed value) (hitem : item.Uniform value)
    (hothers : others.ReadsRow false values result) :
    (field first absent item others).ReadsRow first (value :: values)
      ((item.whole value).bind fun a => result.map (a, ·)) := by
  intro text rest h
  cases h with
  | @item _ _ _ lead behind hlead hbehind =>
    obtain ⟨c, more, rfl, hstart⟩ := hwell.exists_start
    have htext : lead ++ (c :: more ++ behind) ++ rest =
        lead ++ c :: (more ++ (behind ++ rest)) := by simp
    have hrun := hitem [] (behind ++ rest) blank_nil (hbehind.endsNumber rest)
    have hleft := hothers behind rest hbehind
    rw [List.nil_append, List.cons_append] at hrun
    simp only [htext, field, nextItem_item hlead hstart]
    cases hwhole : item.whole (c :: more) with
    | none =>
      rw [hwhole] at hrun
      obtain ⟨fault, hfault⟩ := exists_error_of_toOption hrun
      rw [hfault]
      rfl
    | some a =>
      rw [hwhole] at hrun
      rw [eq_ok_of_toOption hrun]
      simp only [Option.bind_some]
      cases result with
      | none =>
        obtain ⟨fault, hfault⟩ := exists_error_of_toOption hleft
        rw [hfault]
        rfl
      | some b =>
        rw [eq_ok_of_toOption hleft]
        rfl

end field

/-! ### Records -/

section record

variable {name : String} {row : Reader α} {step : String → σ → Except Fault (Reader σ)} {start : σ}
  {finish : σ → Except Fault α} {room : Nat}

theorem reads_record_array {values : List (List Char)} {text : List Char} {result : Option α}
    (hrow : row.ReadsRow true values result) (h : ItemsText true values text) :
    (record name row step start finish room).Reads ('[' :: text)
      (if room = 0 then none else result) := by
  refine reads_spaced rfl fun rest _ => ?_
  simp only
  split
  · rfl
  · exact hrow text rest h

theorem reads_record_object {ms : List (List Char × List Char)} {text : List Char}
    (hnames : ∀ m ∈ ms, WellQuoted m.1)
    (hvalues : ∀ m ∈ ms, ∀ key state reader, step key state = .ok reader → reader.Uniform m.2)
    (h : MembersText true ms text) :
    (record name row step start finish room).Reads ('{' :: text)
      (if room = 0 then none
      else ((keyed ms).bind fun ms => ms.foldlM (putText step) start).bind fun state =>
        (finish state).toOption) := by
  refine reads_spaced rfl fun rest _ => ?_
  have hmembers := @toOption_membersText _ _ _ start _ _ hnames hvalues h rest
  simp only
  split
  · rfl
  · generalize (keyed ms).bind (fun ms => ms.foldlM (putText step) start) = result at hmembers ⊢
    cases result with
    | none =>
      obtain ⟨fault, hfault⟩ := exists_error_of_toOption hmembers
      rw [hfault]
      rfl
    | some state =>
      rw [eq_ok_of_toOption hmembers]
      simp only [Option.bind_some]
      cases finish state with
      | error fault => rfl
      | ok a => rfl

theorem reads_record_keyed {ds : List (String × List Char)} {v : List Char}
    (hstep : ∀ key state reader, step key state = .ok reader → ∀ w, WellFormed w →
      reader.Uniform w) (h : ObjectText ds v) :
    (record name row step start finish room).Reads v
      (if room = 0 then none
      else (ds.foldlM (putText step) start).bind fun state => (finish state).toOption) := by
  cases h with
  | mk htext hkeys hvalues =>
    have hread := @reads_record_object _ _ name row _ start finish room _ _
      (wellQuoted_of_keyed hkeys)
      (fun m hm key state reader hreader => hstep key state reader hreader m.2 (hvalues m hm)) htext
    rwa [hkeys] at hread

/-- What is neither an array nor an object is no record. -/
theorem reads_record_other {c : Char} {text : List Char} (hc : startsValue c = true)
    (hlist : c ≠ '[') (hobject : c ≠ '{') :
    (record name row step start finish room).Reads (c :: text) none := by
  refine reads_spaced hc fun rest _ => ?_
  split
  · rename_i heq
    cases heq
    exact absurd rfl hlist
  · rename_i heq
    cases heq
    exact absurd rfl hobject
  · rfl

/-- A record is an array, an object or neither, and does not depend on what is around it in any of
the three cases. -/
theorem uniform_record {value : List Char} (h : WellFormed value)
    (hrow : ∀ values, (∀ v ∈ values, WellFormed v) → ∃ result, row.ReadsRow true values result)
    (hstep : ∀ key state reader, step key state = .ok reader → ∀ v, WellFormed v →
      reader.Uniform v) : (record name row step start finish room).Uniform value := by
  obtain ⟨c, text, rfl, hc⟩ := h.exists_start
  by_cases hlist : c = '['
  · subst hlist
    obtain ⟨values, htext, hvalues⟩ := h.exists_items
    obtain ⟨result, hresult⟩ := hrow values hvalues
    exact (reads_record_array hresult htext).uniform
  · by_cases hobject : c = '{'
    · subst hobject
      obtain ⟨ms, htext, hnames, hvalues⟩ := h.exists_members
      exact (reads_record_object hnames (fun m hm key state reader hread =>
        hstep key state reader hread m.2 (hvalues m hm)) htext).uniform
    · exact (reads_record_other hc hlist hobject).uniform

end record

end Reader

end ClusterAdvisor.Json
