import ClusterAdvisor.Proofs.Spelling
import Mathlib.Data.List.Forall2

/-!
Values that are written right, by their texts alone. Numbers may be of any size and surrogates may
stand by themselves, so not every text that is well formed is the spelling of a value; what nobody
asks for only has to be well formed. The items of an array and the members of an object are kept as
the texts that they are.
-/

namespace ClusterAdvisor.Json

/-- What stands behind the opening quote of a text, up to the closing one. -/
inductive WellQuoted : List Char → Prop where
  | close : WellQuoted ['"']
  | plain {c : Char} {text : List Char} (hquote : c ≠ '"') (hslash : c ≠ '\\')
      (hcontrol : isControl c = false) (h : WellQuoted text) : WellQuoted (c :: text)
  | short {c : Char} {text : List Char} (hc : c ∈ ['"', '\\', '/', 'b', 'f', 'n', 'r', 't'])
      (h : WellQuoted text) : WellQuoted ('\\' :: c :: text)
  | unicode {a b c d : Char} {text : List Char}
      (hdigits : ∀ digit ∈ [a, b, c, d], (hexDigit? digit).isSome = true) (h : WellQuoted text) :
      WellQuoted ('\\' :: 'u' :: a :: b :: c :: d :: text)

/-- A value without parts. -/
inductive WellFormedScalar : List Char → Prop where
  | word {letters : String} (h : letters ∈ ["null", "true", "false"]) :
      WellFormedScalar letters.toList
  | text {body : List Char} (h : WellQuoted body) : WellFormedScalar ('"' :: body)
  | number {text : List Char} (h : Numeral.Spelling text) : WellFormedScalar text

/-- The texts of items one behind the other, with the bracket that closes the array. -/
inductive ItemsText : (first : Bool) → List (List Char) → List Char → Prop where
  | close {first : Bool} {blanks : List Char} (h : Blank blanks) :
      ItemsText first [] (blanks ++ [']'])
  | item {first : Bool} {item : List Char} {items : List (List Char)} {lead rest : List Char}
      (hlead : Lead first lead) (hrest : ItemsText false items rest) :
      ItemsText first (item :: items) (lead ++ (item ++ rest))

/-- The texts of members one behind the other, with the brace that closes the object. Each has a
name, which goes up to its closing quote, and a value. -/
inductive MembersText : (first : Bool) → List (List Char × List Char) → List Char → Prop where
  | close {first : Bool} {blanks : List Char} (h : Blank blanks) :
      MembersText first [] (blanks ++ ['}'])
  | member {first : Bool} {name value : List Char} {members : List (List Char × List Char)}
      {lead before after rest : List Char} (hlead : Lead first lead) (hbefore : Blank before)
      (hafter : Blank after) (hrest : MembersText false members rest) :
      MembersText first ((name, value) :: members)
        (lead ++ '"' :: (name ++ (before ++ ':' :: (after ++ (value ++ rest)))))

/-- A value that is written right, without blanks around it. -/
inductive WellFormed : List Char → Prop where
  | scalar {text : List Char} (h : WellFormedScalar text) : WellFormed text
  | array {items : List (List Char)} {text : List Char} (htext : ItemsText true items text)
      (hitems : ∀ item ∈ items, WellFormed item) : WellFormed ('[' :: text)
  | object {members : List (List Char × List Char)} {text : List Char}
      (htext : MembersText true members text) (hnames : ∀ m ∈ members, WellQuoted m.1)
      (hvalues : ∀ m ∈ members, WellFormed m.2) : WellFormed ('{' :: text)

/-! ### How texts start -/

theorem Numeral.Spelling.exists_start {text : List Char} (h : Numeral.Spelling text) :
    ∃ c rest, text = c :: rest ∧ (c = '-' || c.isDigit) = true := by
  cases h with
  | plain hplain =>
    obtain ⟨c, rest, rfl, hc⟩ := hplain.exists_digit
    exact ⟨c, rest, rfl, by simp [hc]⟩
  | minus => exact ⟨'-', _, rfl, rfl⟩

theorem startsValue_of_startsNumber {c : Char} (h : (c = '-' || c.isDigit) = true) :
    startsValue c = true := by
  rw [Bool.or_eq_true] at h
  rcases h with hminus | hdigit
  · simp [startsValue, hminus]
  · simp [startsValue, hdigit]

/-- A value without parts is told from arrays and objects by its first character. -/
theorem WellFormedScalar.exists_start {text : List Char} (h : WellFormedScalar text) :
    ∃ c rest, text = c :: rest ∧ startsValue c = true ∧ c ≠ '[' ∧ c ≠ '{' := by
  cases h with
  | word hword =>
    simp only [List.mem_cons, List.not_mem_nil, or_false] at hword
    rcases hword with rfl | rfl | rfl
    all_goals exact ⟨_, _, rfl, by decide⟩
  | number hnumber =>
    obtain ⟨c, rest, rfl, hc⟩ := hnumber.exists_start
    refine ⟨c, rest, rfl, startsValue_of_startsNumber hc, ?_, ?_⟩
    · rintro rfl
      cases hc
    · rintro rfl
      cases hc
  | text => exact ⟨_, _, rfl, by decide⟩

theorem WellFormed.exists_start {text : List Char} (h : WellFormed text) :
    ∃ c rest, text = c :: rest ∧ startsValue c = true := by
  cases h with
  | scalar hscalar =>
    obtain ⟨c, rest, rfl, hc, _⟩ := hscalar.exists_start
    exact ⟨c, rest, rfl, hc⟩
  | array => exact ⟨_, _, rfl, rfl⟩
  | object => exact ⟨_, _, rfl, rfl⟩

theorem WellFormed.wellQuoted {body : List Char} (h : WellFormed ('"' :: body)) : WellQuoted body := by
  rcases h with ⟨hscalar⟩
  generalize htext : '"' :: body = text at hscalar
  cases hscalar with
  | word hword =>
    simp only [List.mem_cons, List.not_mem_nil, or_false] at hword
    rcases hword with rfl | rfl | rfl
    all_goals cases htext
  | text hbody =>
    cases htext
    exact hbody
  | number hnumber =>
    obtain ⟨c, rest, rfl, hc⟩ := hnumber.exists_start
    cases htext
    cases hc

/-- What starts with the bracket of an array is an array. -/
theorem WellFormed.exists_items {body : List Char} (h : WellFormed ('[' :: body)) :
    ∃ items, ItemsText true items body ∧ ∀ item ∈ items, WellFormed item := by
  generalize htext : '[' :: body = text at h
  cases h with
  | scalar hscalar =>
    obtain ⟨c, rest, rfl, _, hlist, _⟩ := hscalar.exists_start
    cases htext
    exact absurd rfl hlist
  | array hbody hitems =>
    cases htext
    exact ⟨_, hbody, hitems⟩
  | object => cases htext

theorem WellFormed.exists_members {body : List Char} (h : WellFormed ('{' :: body)) :
    ∃ members, MembersText true members body ∧ (∀ m ∈ members, WellQuoted m.1) ∧
      ∀ m ∈ members, WellFormed m.2 := by
  generalize htext : '{' :: body = text at h
  cases h with
  | scalar hscalar =>
    obtain ⟨c, rest, rfl, _, _, hobject⟩ := hscalar.exists_start
    cases htext
    exact absurd rfl hobject
  | array => cases htext
  | object hbody hnames hvalues =>
    cases htext
    exact ⟨_, hbody, hnames, hvalues⟩

theorem WellFormed.eq_null {body : List Char} (h : WellFormed ('n' :: body)) :
    'n' :: body = "null".toList := by
  generalize htext : 'n' :: body = text at h ⊢
  rcases h with ⟨hword | hbody | hnumber⟩
  · rename_i letters
    simp only [List.mem_cons, List.not_mem_nil, or_false] at hword
    rcases hword with rfl | rfl | rfl
    · rfl
    · cases htext
    · cases htext
  · cases htext
  · obtain ⟨c, rest, rfl, hc⟩ := hnumber.exists_start
    cases htext
    cases hc
  · cases htext
  · cases htext

/-! ### How texts are followed -/

theorem Lead.endsNumber {lead : List Char} (h : Lead false lead) (rest : List Char) :
    EndsNumber (lead ++ rest) := by
  cases h with
  | next hbefore hafter =>
    rw [List.append_assoc]
    exact endsNumber_blank_append hbefore (endsNumber_cons rfl _)

/-- Behind an item stands a comma or a bracket, so a number ends where its spelling ends. -/
theorem ItemsText.endsNumber {items : List (List Char)} {text : List Char}
    (h : ItemsText false items text) (rest : List Char) : EndsNumber (text ++ rest) := by
  cases h with
  | close hblank =>
    rw [List.append_assoc]
    exact endsNumber_blank_append hblank (endsNumber_cons rfl _)
  | item hlead =>
    rw [List.append_assoc]
    exact hlead.endsNumber _

theorem MembersText.endsNumber {members : List (List Char × List Char)} {text : List Char}
    (h : MembersText false members text) (rest : List Char) : EndsNumber (text ++ rest) := by
  cases h with
  | close hblank =>
    rw [List.append_assoc]
    exact endsNumber_blank_append hblank (endsNumber_cons rfl _)
  | member hlead =>
    rw [List.append_assoc]
    exact hlead.endsNumber _

/-! ### The parts of a spelling -/

theorem exists_left_of_forall₂ {α β : Type} {R : α → β → Prop} {as : List α} {bs : List β}
    (h : List.Forall₂ R as bs) {b : β} (hb : b ∈ bs) : ∃ a ∈ as, R a b := by
  induction h with
  | nil => cases hb
  | cons hab _ ih =>
    rcases List.mem_cons.mp hb with rfl | hothers
    · exact ⟨_, List.mem_cons_self, hab⟩
    · obtain ⟨a, ha, hr⟩ := ih hothers
      exact ⟨a, List.mem_cons_of_mem _ ha, hr⟩

def SpellsMember (tree : String × Value) (m : List Char × List Char) : Prop :=
  textBody m.1 = .ok (tree.1, []) ∧ Spells tree.2 m.2

/-- A spelling is a text of items, each of which spells its tree; the two may be looked at apart. -/
theorem SpellsItems.exists_texts {first : Bool} {trees : List Value} {text : List Char}
    (h : SpellsItems first trees text) :
    ∃ items, ItemsText first items text ∧ List.Forall₂ Spells trees items := by
  induction trees generalizing first text with
  | nil =>
    cases h with
    | close hblank => exact ⟨[], .close hblank, .nil⟩
  | cons tree trees ih =>
    cases h with
    | item hlead hv hrest =>
      obtain ⟨items, hitems, hothers⟩ := ih hrest
      exact ⟨_, .item hlead hitems, .cons hv hothers⟩

theorem SpellsMembers.exists_texts {first : Bool} {trees : List (String × Value)} {text : List Char}
    (h : SpellsMembers first trees text) :
    ∃ members, MembersText first members text ∧ List.Forall₂ SpellsMember trees members := by
  induction trees generalizing first text with
  | nil =>
    cases h with
    | close hblank => exact ⟨[], .close hblank, .nil⟩
  | cons tree trees ih =>
    cases h with
    | member hlead hkey hbefore hafter hv hrest =>
      obtain ⟨members, hmembers, hothers⟩ := ih hrest
      exact ⟨_, .member hlead hbefore hafter hmembers, .cons ⟨hkey, hv⟩ hothers⟩

end ClusterAdvisor.Json
