import ClusterAdvisor.Proofs.SchemaRoundTrip

/-!
Ways to present a document. The order of members, members that nobody knows, defaults that are
written out or left out, and records as arrays are rewrites of the text: relations between texts that
no reader above the level of tokens takes part in.
-/

namespace ClusterAdvisor.Json

/-! ### Bare texts of arrays and objects -/

def itemsChars : (first : Bool) → List (List Char) → List Char
  | _, [] => [']']
  | first, v :: values => (if first then [] else [',']) ++ (v ++ itemsChars false values)

def membersChars : (first : Bool) → List (String × List Char) → List Char
  | _, [] => ['}']
  | first, (key, v) :: ds =>
    (if first then [] else [',']) ++ (textChars key ++ ':' :: (v ++ membersChars false ds))

def arrayChars (values : List (List Char)) : List Char := '[' :: itemsChars true values

def objectChars (ds : List (String × List Char)) : List Char := '{' :: membersChars true ds

theorem lead_separator (first : Bool) : Lead first (if first then [] else [',']) := by
  cases first with
  | true => exact .first blank_nil
  | false => exact .next blank_nil blank_nil

theorem itemsText_chars (first : Bool) (values : List (List Char)) :
    ItemsText first values (itemsChars first values) := by
  induction values generalizing first with
  | nil => exact .close blank_nil
  | cons v values ih => exact .item (lead_separator first) (ih false)

/-- The members with the names that spell their keys. -/
def named (ds : List (String × List Char)) : List (List Char × List Char) :=
  ds.map fun d => (d.1.toList.flatMap escapeChar ++ ['"'], d.2)

theorem membersText_chars (first : Bool) (ds : List (String × List Char)) :
    MembersText first (named ds) (membersChars first ds) := by
  induction ds generalizing first with
  | nil => exact .close blank_nil
  | cons d ds ih =>
    obtain ⟨key, v⟩ := d
    have htext := @MembersText.member first (key.toList.flatMap escapeChar ++ ['"']) v _ _ _ _ _
      (lead_separator first) blank_nil blank_nil (ih false)
    simpa [membersChars, textChars, named] using htext

theorem keyed_named (ds : List (String × List Char)) : Reader.keyed (named ds) = some ds := by
  induction ds with
  | nil => rfl
  | cons d ds ih =>
    rw [named, List.map_cons, Reader.keyed_cons, keyOf?_eq_some_iff.mpr (textBody_escaped d.1)]
    rw [named] at ih
    rw [ih]
    rfl

/-- Every list of values is the items of some text. -/
theorem arrayText_arrayChars {values : List (List Char)} (hvalues : ∀ v ∈ values, WellFormed v) :
    ArrayText values (arrayChars values) :=
  .mk (itemsText_chars true values) hvalues

/-- Every list of values with keys is the members of some text. -/
theorem objectText_objectChars {ds : List (String × List Char)}
    (hvalues : ∀ d ∈ ds, WellFormed d.2) : ObjectText ds (objectChars ds) :=
  .mk (membersText_chars true ds) (keyed_named ds) (List.forall_mem_map.mpr hvalues)

theorem wellFormed_textChars (s : String) : WellFormed (textChars s) :=
  .scalar (.text (wellQuoted_of_textBody (textBody_escaped s)))

/-- A number that is too large to be read. -/
theorem wellFormedScalar_hugeNumber : WellFormedScalar "1e999".toList :=
  .number (.plain (@Numeral.Unsigned.mk ['1'] [] ['e', '9', '9', '9']
    (.digits ⟨by simp, by simp⟩ (by simp)) .absent
    (@Numeral.Exponent.power 'e' [] ['9', '9', '9'] (by decide) (by simp) ⟨by simp, by simp⟩)))

theorem wellFormed_hugeNumber : WellFormed "1e999".toList := .scalar wellFormedScalar_hugeNumber

theorem wellFormed_arrayChars {values : List (List Char)} (h : ∀ v ∈ values, WellFormed v) :
    WellFormed (arrayChars values) :=
  (arrayText_arrayChars h).wellFormed

theorem wellFormed_objectChars {ds : List (String × List Char)} (h : ∀ d ∈ ds, WellFormed d.2) :
    WellFormed (objectChars ds) :=
  (objectText_objectChars h).wellFormed

/-! ### Rewrites -/

/-- Texts of two things that are related. -/
inductive Presents {A B : Type} (V : A → List Char → Prop) (W : B → List Char → Prop)
    (R : A → B → Prop) : List Char → List Char → Prop where
  | mk {a : A} {b : B} {v w : List Char} (hv : V a v) (hw : W b w) (h : R a b) : Presents V W R v w

/-- One entry of a list is replaced by a related one. -/
inductive ReplacesOne {A : Type} (R : A → A → Prop) : List A → List A → Prop where
  | mk (front back : List A) {a b : A} (h : R a b) :
      ReplacesOne R (front ++ a :: back) (front ++ b :: back)

def ReplacesValue (R : String → List Char → List Char → Prop) :
    List (String × List Char) → List (String × List Char) → Prop :=
  ReplacesOne fun d e => d.1 = e.1 ∧ R d.1 d.2 e.2

/-- The member with the key is a field that may be absent, and this text spells its default. -/
def Fields.SpellsBlank : {σ α : Type} → Fields σ α → (key : String) → List Char → Prop
  | _, _, .nil, _, _ => False
  | _, _, .cons name item blank rest, key, v =>
    if key = name then ∃ a ∈ blank, Spells (item.toValue a) v else rest.SpellsBlank key v

/-- The array of all field values in the order of the fields; a member that is absent stands there
as its default. -/
def Fields.AsRow : {σ α : Type} → Fields σ α → List (String × List Char) → List (List Char) → Prop
  | _, _, .nil, _, values => values = []
  | _, _, .cons name item blank rest, ds, values =>
    ∃ v others, values = v :: others ∧ rest.AsRow ds others ∧
      if name ∈ keysOf ds then (name, v) ∈ ds else ∃ a ∈ blank, Spells (item.toValue a) v

/-- Another text for the members of a record; `R` relates other texts for the value of a field. -/
inductive Fields.Rearranges {σ α : Type} (fields : Fields σ α)
    (R : String → List Char → List Char → Prop) :
    List (String × List Char) → List (String × List Char) → Prop where
  | reorder {ds es : List (String × List Char)} (h : ds.Perm es) : fields.Rearranges R ds es
  | addUnknown (front back : List (String × List Char)) {key : String} (v : List Char)
      (hkey : key ∉ fields.keys) : fields.Rearranges R (front ++ back) (front ++ (key, v) :: back)
  | addDefault (front back : List (String × List Char)) {key : String} {v : List Char}
      (hnew : key ∉ keysOf (front ++ back)) (hv : fields.SpellsBlank key v) :
      fields.Rearranges R (front ++ back) (front ++ (key, v) :: back)
  | dropDefault (front back : List (String × List Char)) {key : String} {v : List Char}
      (hv : fields.SpellsBlank key v) :
      fields.Rearranges R (front ++ (key, v) :: back) (front ++ back)
  | within {ds es : List (String × List Char)} (h : ReplacesValue R ds es) :
      fields.Rearranges R ds es

/-- Another text for the members of a table; `R` relates other texts for a value. -/
inductive TableRearranges (R : List Char → List Char → Prop) :
    List (String × List Char) → List (String × List Char) → Prop where
  | reorder {ds es : List (String × List Char)} (hkeys : (keysOf ds).Nodup) (h : ds.Perm es) :
      TableRearranges R ds es
  | within {ds es : List (String × List Char)} (h : ReplacesValue (fun _ => R) ds es) :
      TableRearranges R ds es

mutual

/-- One text is another one with a single record or table in it presented in another way. -/
def Schema.Restates : {α : Type} → Schema α → List Char → List Char → Prop
  | _, .text => fun _ _ => False
  | _, .list item => Presents ArrayText ArrayText (ReplacesOne item.Restates)
  | _, .table item => Presents ObjectText ObjectText (TableRearranges item.Restates)
  | _, .record _ fields _ _ => fun v w =>
    Presents ObjectText ObjectText (fields.Rearranges fields.RestatesMember) v w ∨
      Presents ObjectText ArrayText fields.AsRow v w ∨
      Presents ArrayText ArrayText fields.RestatesRow v w
  | _, .any _ _ => fun _ _ => False
  | _, .choice _ _ => fun _ _ => False

def Fields.RestatesMember : {σ α : Type} → Fields σ α → (key : String) → List Char → List Char → Prop
  | _, _, .nil => fun _ _ _ => False
  | _, _, .cons name item _ rest => fun key v w =>
    if key = name then item.Restates v w else rest.RestatesMember key v w

def Fields.RestatesRow : {σ α : Type} → Fields σ α → List (List Char) → List (List Char) → Prop
  | _, _, .nil => fun _ _ => False
  | _, _, .cons _ item _ rest => fun vs ws =>
    (∃ v w others, vs = v :: others ∧ ws = w :: others ∧ item.Restates v w) ∨
      ∃ v others more, vs = v :: others ∧ ws = v :: more ∧ rest.RestatesRow others more

end

/-- A document is another one with a single part presented in another way, and with any blanks
around the whole. -/
def Schema.Rewrites {α : Type} (schema : Schema α) (source target : String) : Prop :=
  ∃ v w, Framed source v ∧ Framed target w ∧ schema.Restates v w

theorem Presents.wellFormed {A B : Type} {V : A → List Char → Prop} {W : B → List Char → Prop}
    {R : A → B → Prop} {v w : List Char} (h : Presents V W R v w)
    (hV : ∀ {a v}, V a v → WellFormed v) (hW : ∀ {b w}, W b w → WellFormed w) :
    WellFormed v ∧ WellFormed w := by
  cases h with
  | mk hv hw => exact ⟨hV hv, hW hw⟩

/-- Both texts of a rule are JSON, so the rules are about documents and not about what a reader
takes. -/
theorem Schema.Restates.wellFormed {α : Type} {schema : Schema α} {v w : List Char}
    (h : schema.Restates v w) : WellFormed v ∧ WellFormed w := by
  cases schema with
  | list item => exact Presents.wellFormed h ArrayText.wellFormed ArrayText.wellFormed
  | table item => exact Presents.wellFormed h ObjectText.wellFormed ObjectText.wellFormed
  | record name fields make split =>
    rcases h with h | h | h
    · exact h.wellFormed ObjectText.wellFormed ObjectText.wellFormed
    · exact h.wellFormed ObjectText.wellFormed ArrayText.wellFormed
    · exact h.wellFormed ArrayText.wellFormed ArrayText.wellFormed
  | text => exact h.elim
  | any => exact h.elim
  | choice => exact h.elim

theorem Schema.rewrites_ofList {α : Type} {schema : Schema α} {v w : List Char}
    (h : schema.Restates v w) : schema.Rewrites (String.ofList v) (String.ofList w) :=
  ⟨v, w, ⟨[], [], by simp, blank_nil, blank_nil⟩, ⟨[], [], by simp, blank_nil, blank_nil⟩, h⟩

end ClusterAdvisor.Json
