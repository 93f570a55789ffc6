import ClusterAdvisor.Json.Schema
import ClusterAdvisor.Proofs.Results
import ClusterAdvisor.Proofs.Skipping

/-!
Reading from the texts of parts. A reader that is uniform on a value takes exactly the value, whatever
stands around it, and gives what it gives for the value alone; so the loops over items and members
come down to what their parts are read as. The texts of arrays and objects are described by these
parts: the texts of items, and the keys with the texts of their values.
-/

namespace ClusterAdvisor.Json

variable {ε α β σ : Type}

def wholeOf (read : List Char → Except ε (α × List Char)) (text : List Char) : Option α :=
  (read text).toOption.bind fun found => if found.2 = [] then some found.1 else none

theorem wholeOf_eq_some {read : List Char → Except ε (α × List Char)} {text : List Char} {a : α} :
    wholeOf read text = some a ↔ read text = .ok (a, []) := by
  unfold wholeOf
  cases read text with
  | error fault => simp [Except.toOption]
  | ok found =>
    obtain ⟨b, rest⟩ := found
    by_cases hrest : rest = [] <;> simp [hrest]

/-- A reader of tokens that takes what is passed over takes the token it is in front of, or none. -/
theorem toOption_of_skip {read : List Char → Except Fault (α × List Char)}
    {skip : List Char → Except Fault (List Char)} {follows : List Char → Prop} {token : List Char}
    (hdetach : Detachable read follows) (hnil : follows [])
    (hskip : ∀ {text a rest}, read text = .ok (a, rest) → skip text = .ok rest)
    (htoken : ∀ {rest}, follows rest → skip (token ++ rest) = .ok rest) {rest : List Char}
    (hrest : follows rest) :
    (read (token ++ rest)).toOption = (wholeOf read token).map (·, rest) := by
  cases hread : read (token ++ rest) with
  | ok found =>
    obtain ⟨a, left⟩ := found
    obtain rfl : left = rest := by
      have hsame := (hskip hread).symm.trans (htoken hrest)
      exact Except.ok.inj hsame
    obtain ⟨taken, htaken, hagain⟩ := hdetach hread
    obtain rfl := List.append_cancel_right htaken
    have hwhole : wholeOf read token = some a := wholeOf_eq_some.mpr (by simpa using hagain [] hnil)
    rw [hwhole]
    rfl
  | error fault =>
    cases hwhole : wholeOf read token with
    | none => rfl
    | some a =>
      obtain ⟨taken, htaken, hagain⟩ := hdetach (wholeOf_eq_some.mp hwhole)
      rw [List.append_nil] at htaken
      rw [htaken, hagain rest hrest] at hread
      cases hread

/-- The key that the name of a member spells, if it spells one. -/
def keyOf? (name : List Char) : Option String := wholeOf textBody name

theorem keyOf?_eq_some_iff {name : List Char} {key : String} :
    keyOf? name = some key ↔ textBody name = .ok (key, []) :=
  wholeOf_eq_some

/-- A well-formed text ends at its own closing quote, so what follows makes no difference. -/
theorem toOption_textBody {name : List Char} (h : WellQuoted name) (rest : List Char) :
    (textBody (name ++ rest)).toOption = (keyOf? name).map (·, rest) :=
  toOption_of_skip detachable_textBody trivial skipText_of_textAfter
    (fun _ => skipText_wellQuoted h _) trivial

/-- Behind a number there must be nothing that could continue it. -/
theorem toOption_scalar {text rest : List Char} (h : WellFormedScalar text)
    (hends : EndsNumber rest) :
    (scalar (text ++ rest)).toOption = (wholeOf scalar text).map (·, rest) :=
  toOption_of_skip detachable_scalar endsNumber_nil skipScalar_of_scalar (skipScalar_wellFormed h)
    hends

namespace Reader

def whole (reader : Reader α) : List Char → Option α := wholeOf reader.run

/-- Behind blanks and in front of anything that may follow, the reader takes exactly the value; the
result is what it gives for it. -/
def Reads (reader : Reader α) (value : List Char) (result : Option α) : Prop :=
  ∀ blanks rest, Blank blanks → EndsNumber rest →
    (reader.run (blanks ++ (value ++ rest))).toOption = result.map (·, rest)

/-- What the reader gives does not depend on what is around the value. -/
def Uniform (reader : Reader α) (value : List Char) : Prop :=
  reader.Reads value (reader.whole value)

variable {reader : Reader α} {value : List Char} {result : Option α}

theorem Reads.whole_eq (h : reader.Reads value result) : reader.whole value = result := by
  have hrun := h [] [] blank_nil endsNumber_nil
  rw [List.nil_append, List.append_nil] at hrun
  unfold whole wholeOf
  rw [hrun]
  cases result <;> rfl

/-- A reader that takes exactly the value in front of every text does not look beyond it. -/
theorem Reads.uniform (h : reader.Reads value result) : reader.Uniform value := by
  unfold Uniform
  rw [h.whole_eq]
  exact h

theorem toOption_map_run (reader : Reader α) (f : α → β) (text : List Char) :
    ((reader.map f).run text).toOption =
      (reader.run text).toOption.map fun found => (f found.1, found.2) := by
  simp only [Reader.map]
  cases reader.run text with
  | error fault => rfl
  | ok found => rfl

theorem Reads.map (h : reader.Reads value result) (f : α → β) :
    (reader.map f).Reads value (result.map f) := by
  intro blanks rest hblank hends
  rw [toOption_map_run, h blanks rest hblank hends, Option.map_map, Option.map_map]
  rfl

theorem whole_map (reader : Reader α) (f : α → β) (value : List Char) :
    (reader.map f).whole value = (reader.whole value).map f := by
  unfold whole wholeOf
  rw [toOption_map_run]
  cases (reader.run value).toOption with
  | none => rfl
  | some found =>
    simp only [Option.map_some, Option.bind_some]
    split
    · rfl
    · rfl

theorem Uniform.map (h : reader.Uniform value) (f : α → β) : (reader.map f).Uniform value :=
  (Reads.map h f).uniform

/-! ### Documents -/

end Reader

/-- The document is the text of a value with blanks around it. -/
def Framed (document : String) (value : List Char) : Prop :=
  ∃ before after, document.toList = before ++ (value ++ after) ∧ Blank before ∧ Blank after

namespace Reader

variable {reader : Reader α} {value : List Char} {result : Option α}

theorem Reads.document (h : reader.Reads value result) {source : String}
    (hframed : Framed source value) : (reader.document source).toOption = result := by
  obtain ⟨before, after, htext, hbefore, hafter⟩ := hframed
  have hends : EndsNumber after := by
    rw [← List.append_nil after]
    exact endsNumber_blank_append hafter endsNumber_nil
  have hrun := h before after hbefore hends
  rw [Reader.document, htext]
  cases result with
  | none =>
    obtain ⟨fault, hfault⟩ := exists_error_of_toOption hrun
    rw [hfault]
    rfl
  | some a =>
    rw [eq_ok_of_toOption hrun]
    simp only
    rw [skipSpace_eq_nil hafter]
    rfl

/-! ### Items -/

theorem items_done {item : Reader α} {first : Bool} {text rest : List Char}
    (h : nextItem first text = .ok (.done rest)) : items item first text = .ok ([], rest) := by
  rw [items]
  split
  · rename_i heq
    rw [h] at heq
    cases heq
  · rename_i heq
    rw [h] at heq
    cases heq
    rfl
  · rename_i heq
    rw [h] at heq
    cases heq

theorem toOption_items_more {item : Reader α} {first : Bool} {text start : List Char}
    (h : nextItem first text = .ok (.more start)) :
    (items item first text).toOption = (item.run start).toOption.bind fun found =>
      (items item false found.2).toOption.map fun others => (found.1 :: others.1, others.2) := by
  rw [items]
  split
  · rename_i heq
    rw [h] at heq
    cases heq
  · rename_i heq
    rw [h] at heq
    cases heq
  · rename_i heq
    rw [h] at heq
    cases heq
    split
    · rename_i hrun
      rw [hrun]
      rfl
    · rename_i hrun
      dsimp only
      rw [hrun]
      rw [toOption_ok, Option.bind_some]
      cases items item false _ with
      | error fault => rfl
      | ok others => rfl

/-- By induction over the items: each of them is read as if it stood alone. -/
theorem toOption_itemsText {item : Reader α} {first : Bool} {values : List (List Char)}
    {text : List Char} (hvalues : ∀ v ∈ values, WellFormed v ∧ item.Uniform v)
    (h : ItemsText first values text) (rest : List Char) :
    (items item first (text ++ rest)).toOption = (values.mapM item.whole).map (·, rest) := by
  induction values generalizing first text with
  | nil =>
    cases h with
    | close hblank =>
      rw [List.append_assoc, List.singleton_append, items_done (nextItem_close hblank rest)]
      rfl
  | cons value values ih =>
    cases h with
    | @item _ _ _ lead behind hlead hbehind =>
      obtain ⟨⟨c, more, rfl, hstart⟩, huniform⟩ :=
        (hvalues value List.mem_cons_self).imp_left WellFormed.exists_start
      have hrun := huniform [] (behind ++ rest) blank_nil (hbehind.endsNumber rest)
      rw [List.nil_append, List.cons_append] at hrun
      have htext : lead ++ (c :: more ++ behind) ++ rest =
          lead ++ c :: (more ++ (behind ++ rest)) := by simp
      have hothers := ih (fun v hv => hvalues v (List.mem_cons_of_mem _ hv)) hbehind
      rw [htext, toOption_items_more (nextItem_item hlead hstart _), hrun, List.mapM_cons]
      cases item.whole (c :: more) with
      | none => rfl
      | some a =>
        simp only [Option.map_some, Option.bind_some, hothers]
        cases values.mapM item.whole <;> rfl

/-! ### Members -/

theorem members_done {step : String → σ → Except Fault (Reader σ)} {first : Bool} {state : σ}
    {text rest : List Char} (h : nextKey first text = .ok (.done rest)) :
    members step first state text = .ok (state, rest) := by
  rw [members]
  split
  · rename_i heq
    rw [h] at heq
    cases heq
  · rename_i heq
    rw [h] at heq
    cases heq
    rfl
  · rename_i heq
    rw [h] at heq
    cases heq

/-- What happens at the name of a member. -/
theorem toOption_members_more {step : String → σ → Except Fault (Reader σ)} {first : Bool} {state : σ}
    {text start : List Char} (hnext : nextKey first text = .ok (.more start)) :
    (members step first state text).toOption = (textBody start).toOption.bind fun name =>
      (step name.1 state).toOption.bind fun reader => (colon name.2).toOption.bind fun behind =>
        (reader.run behind).toOption.bind fun found =>
          (members step false found.1 found.2).toOption := by
  rw [members]
  split
  · rename_i heq
    rw [hnext] at heq
    cases heq
  · rename_i heq
    rw [hnext] at heq
    cases heq
  · rename_i heq
    rw [hnext] at heq
    cases heq
    split
    · rename_i hkey
      rw [hkey]
      rfl
    · rename_i hkey
      simp only [hkey, toOption_ok, Option.bind_some]
      split
      · rename_i hstep
        rw [hstep]
        rfl
      · rename_i hstep
        simp only [hstep, toOption_ok, Option.bind_some]
        split
        · rename_i hcolon
          rw [hcolon]
          rfl
        · rename_i hcolon
          simp only [hcolon, toOption_ok, Option.bind_some]
          split
          · rename_i hrun
            rw [hrun]
            rfl
          · rename_i hrun
            rw [hrun]
            rfl

/-- What a member with a key and a value makes of what has been read. -/
def putText (step : String → σ → Except Fault (Reader σ)) (state : σ) (m : String × List Char) :
    Option σ :=
  (step m.1 state).toOption.bind fun reader => reader.whole m.2

/-- The members with their keys, if all names spell one. -/
def keyed (members : List (List Char × List Char)) : Option (List (String × List Char)) :=
  members.mapM fun m => (keyOf? m.1).map (·, m.2)

theorem keyed_cons (m : List Char × List Char) (ms : List (List Char × List Char)) :
    keyed (m :: ms) =
      (keyOf? m.1).bind fun key => (keyed ms).map fun others => (key, m.2) :: others := by
  unfold keyed
  rw [List.mapM_cons]
  cases keyOf? m.1 with
  | none => rfl
  | some key =>
    cases ms.mapM fun m => (keyOf? m.1).map (·, m.2) <;> rfl

/-- One member in front of others: its name, then its value, then what is behind it. -/
theorem toOption_members_cons {step : String → σ → Except Fault (Reader σ)} {first : Bool}
    {state : σ} {name value lead before after behind : List Char} (hlead : Lead first lead)
    (hname : WellQuoted name) (hbefore : Blank before) (hafter : Blank after)
    (hvalue : ∀ key reader, step key state = .ok reader → reader.Uniform value)
    (hends : EndsNumber behind) :
    (members step first state
        (lead ++ '"' :: (name ++ (before ++ ':' :: (after ++ (value ++ behind)))))).toOption =
      (keyOf? name).bind fun key => (putText step state (key, value)).bind fun next =>
        (members step false next behind).toOption := by
  have hnext := nextKey_key hlead (name ++ (before ++ ':' :: (after ++ (value ++ behind))))
  have hcolon := colon_append hbefore (after ++ (value ++ behind))
  rw [toOption_members_more hnext, toOption_textBody hname, Option.bind_map]
  refine congrArg _ (funext fun key => ?_)
  simp only [Function.comp_def, hcolon, toOption_ok, Option.bind_some, putText]
  cases hstep : step key state with
  | error fault => rfl
  | ok reader =>
    simp only [toOption_ok, Option.bind_some, hvalue key reader hstep after behind hafter hends,
      Option.bind_map, Function.comp_def]

/-- By induction over the members: the names are settled first, and then each value is read as if it
stood alone. -/
theorem toOption_membersText {step : String → σ → Except Fault (Reader σ)} {first : Bool} {state : σ}
    {ms : List (List Char × List Char)} {text : List Char} (hnames : ∀ m ∈ ms, WellQuoted m.1)
    (hvalues : ∀ m ∈ ms, ∀ key state reader, step key state = .ok reader → reader.Uniform m.2)
    (h : MembersText first ms text) (rest : List Char) :
    (members step first state (text ++ rest)).toOption =
      ((keyed ms).bind fun ms => ms.foldlM (putText step) state).map (·, rest) := by
  induction ms generalizing first state text with
  | nil =>
    cases h with
    | close hblank =>
      rw [List.append_assoc, List.singleton_append, members_done (nextKey_close hblank rest)]
      rfl
  | cons m ms ih =>
    cases h with
    | @member _ name value _ lead before after behind hlead hbefore hafter hbehind =>
      have htext : lead ++ '"' :: (name ++ (before ++ ':' :: (after ++ (value ++ behind)))) ++ rest =
          lead ++ '"' :: (name ++ (before ++ ':' :: (after ++ (value ++ (behind ++ rest))))) := by
        simp
      have hothers := fun next => @ih _ next _
        (fun m hm => hnames m (List.mem_cons_of_mem _ hm))
        (fun m hm => hvalues m (List.mem_cons_of_mem _ hm)) hbehind
      rw [htext, toOption_members_cons hlead (hnames _ List.mem_cons_self) hbefore hafter
        (fun key reader hstep => hvalues _ List.mem_cons_self key state reader hstep)
        (hbehind.endsNumber rest), keyed_cons]
      simp only [hothers]
      cases keyOf? name with
      | none => rfl
      | some key =>
        rw [Option.bind_some, Option.bind_some]
        cases keyed ms with
        | none => cases putText step state (key, value) <;> rfl
        | some ms => cases hput : putText step state (key, value) <;> simp [hput]

end Reader

/-! ### Texts of arrays and objects -/

/-- The texts of an array with these items. -/
inductive ArrayText (values : List (List Char)) : List Char → Prop where
  | mk {body : List Char} (htext : ItemsText true values body)
      (hvalues : ∀ v ∈ values, WellFormed v) : ArrayText values ('[' :: body)

/-- The texts of an object with these members, whose names spell the keys. -/
inductive ObjectText (ds : List (String × List Char)) : List Char → Prop where
  | mk {ms : List (List Char × List Char)} {body : List Char} (htext : MembersText true ms body)
      (hkeys : Reader.keyed ms = some ds) (hvalues : ∀ m ∈ ms, WellFormed m.2) :
      ObjectText ds ('{' :: body)

theorem ArrayText.wellFormed {values : List (List Char)} {v : List Char} (h : ArrayText values v) :
    WellFormed v := by
  cases h with
  | mk htext hvalues => exact .array htext hvalues

theorem forall₂_of_mapM {read : α → Option β} {as : List α} {bs : List β}
    (h : as.mapM read = some bs) : List.Forall₂ (fun a b => read a = some b) as bs := by
  induction as generalizing bs with
  | nil =>
    cases h
    exact .nil
  | cons a as ih =>
    rw [List.mapM_cons] at h
    obtain ⟨b, hb, hback⟩ := Option.bind_eq_some_iff.mp h
    obtain ⟨others, hothers, hsame⟩ := Option.bind_eq_some_iff.mp hback
    cases hsame
    exact .cons hb (ih hothers)

theorem wellQuoted_of_keyed {ms : List (List Char × List Char)} {ds : List (String × List Char)}
    (h : Reader.keyed ms = some ds) : ∀ m ∈ ms, WellQuoted m.1 := by
  intro m hm
  obtain ⟨d, _, hd⟩ := exists_left_of_forall₂ (forall₂_of_mapM h).flip hm
  obtain ⟨key, hkey, _⟩ := Option.map_eq_some_iff.mp hd
  exact wellQuoted_of_textBody (keyOf?_eq_some_iff.mp hkey)

theorem ObjectText.wellFormed {ds : List (String × List Char)} {v : List Char}
    (h : ObjectText ds v) : WellFormed v := by
  cases h with
  | mk htext hkeys hvalues => exact .object htext (wellQuoted_of_keyed hkeys) hvalues

theorem ObjectText.forall_wellFormed {ds : List (String × List Char)} {v : List Char}
    (h : ObjectText ds v) : ∀ d ∈ ds, WellFormed d.2 := by
  cases h with
  | mk _ hkeys hvalues =>
    intro d hd
    obtain ⟨m, hm, hread⟩ := exists_left_of_forall₂ (forall₂_of_mapM hkeys) hd
    obtain ⟨key, _, rfl⟩ := Option.map_eq_some_iff.mp hread
    exact hvalues m hm

end ClusterAdvisor.Json
