import ClusterAdvisor.Json.Print
import ClusterAdvisor.Proofs.Spelling
import Mathlib.Tactic.IntervalCases

/-!
Both layouts spell the value that is written: integers come back digit by digit, texts character by
character, and what stands between the parts is nothing but blanks. Real numbers are left out.
-/

namespace ClusterAdvisor.Json

/-! ### Integers -/

namespace Numeral

theorem natOfDigits_digitValue (digits : List Char) :
    natOfDigits (digits.map digitValue) = Nat.ofDigitChars 10 digits 0 := by
  rw [natOfDigits, List.foldl_map]
  rfl

/-- The digits that are written are read as the number that they were made from. -/
theorem natOfDigits_toDigits (n : Nat) :
    natOfDigits ((Nat.toDigits 10 n).map digitValue) = n := by
  rw [natOfDigits_digitValue, Nat.ofDigitChars_ten_toDigits]

theorem isDigit_of_mem_toDigits {n : Nat} {c : Char} (h : c ∈ Nat.toDigits 10 n) :
    c.isDigit = true :=
  Nat.isDigit_of_mem_toDigits (by decide) (by decide) h

/-- Only the digits of zero start with a zero. -/
theorem head?_toDigits {n : Nat} (hpos : 0 < n) : (Nat.toDigits 10 n).head? ≠ some '0' := by
  induction n using Nat.strongRecOn with
  | ind n ih =>
    by_cases hsmall : n < 10
    · rw [Nat.toDigits_of_lt_base hsmall]
      interval_cases n <;> decide
    · have hquotient : 0 < n / 10 := by omega
      rw [Nat.toDigits_of_base_le (by decide) (by omega),
        List.head?_append_of_ne_nil _ Nat.toDigits_ne_nil]
      exact ih (n / 10) (by omega) hquotient

/-- A number is written without zeros in front, behind which its reader would stop. -/
theorem whole_toDigits (n : Nat) : Whole (Nat.toDigits 10 n) := by
  rcases Nat.eq_zero_or_pos n with rfl | hpos
  · exact .zero
  · exact .digits ⟨Nat.toDigits_ne_nil, fun c hc => isDigit_of_mem_toDigits hc⟩ (head?_toDigits hpos)

theorem magnitude_toDigits (negative : Bool) (n : Nat) :
    magnitude negative (Nat.toDigits 10 n) =
      .ok (⟨negative, (Nat.toDigits 10 n).map digitValue, [], none⟩, []) := by
  have hread := magnitude_append negative (whole_toDigits n) .absent .absent
    (exponentPart_absent endsNumber_nil) endsNumber_nil
  simpa using hread

theorem scan_toDigits (n : Nat) :
    scan (Nat.toDigits 10 n) = .ok (⟨false, (Nat.toDigits 10 n).map digitValue, [], none⟩, []) := by
  rw [← magnitude_toDigits, scan.eq_def]
  split
  · rename_i rest heq
    have hminus : '-' ∈ Nat.toDigits 10 n := heq ▸ List.mem_cons_self
    cases isDigit_of_mem_toDigits hminus
  · rfl

end Numeral

theorem number_of_scan {text : List Char} {n : Numeral} {v : Value}
    (hscan : Numeral.scan text = .ok (n, [])) (hvalue : n.value? = some v) :
    number text = .ok (v, []) := by
  simp [number, hscan, hvalue]

theorem Integer.ofInt?_val (n : Integer) : Integer.ofInt? n.val = some n := by
  rw [Integer.ofInt?, dif_pos ⟨n.lower, n.upper⟩]

theorem Numeral.value?_of_nonneg {n : Integer} (h : 0 ≤ n.val) :
    Numeral.value? ⟨false, (Nat.toDigits 10 n.val.toNat).map Numeral.digitValue, [], none⟩ =
      some (.integer n) := by
  have hinteger : Numeral.integer?
      ⟨false, (Nat.toDigits 10 n.val.toNat).map Numeral.digitValue, [], none⟩ = some n := by
    simp only [Numeral.integer?, Numeral.natOfDigits_toDigits, Int.toNat_of_nonneg h]
    exact n.ofInt?_val
  rw [Numeral.value?, hinteger]

theorem Numeral.value?_of_neg {n : Integer} (h : n.val < 0) :
    Numeral.value? ⟨true, (Nat.toDigits 10 (-n.val).toNat).map Numeral.digitValue, [], none⟩ =
      some (.integer n) := by
  have hvalue : (((-n.val).toNat : Nat) : Int) = -n.val := Int.toNat_of_nonneg (by omega)
  have hnonzero : (-n.val).toNat ≠ 0 := by omega
  have hinteger : Numeral.integer?
      ⟨true, (Nat.toDigits 10 (-n.val).toNat).map Numeral.digitValue, [], none⟩ = some n := by
    simp only [Numeral.integer?, Numeral.natOfDigits_toDigits, hvalue, Int.neg_neg]
    rw [if_neg hnonzero]
    exact n.ofInt?_val
  rw [Numeral.value?, hinteger]

theorem scalar_of_number {c : Char} (hc : (c = '-' || c.isDigit) = true) (rest : List Char) :
    scalar (c :: rest) = number (c :: rest) := by
  rw [scalar, if_pos hc]
  all_goals
    rintro rfl
    cases hc

/-- The digits of an integer, behind a minus sign if it is negative, are read as the integer. -/
theorem scalar_integer (n : Integer) : scalar (toString n.val).toList = .ok (.integer n, []) := by
  rw [Int.toString_eq_repr, Int.repr_eq_if]
  split
  · rename_i hnonneg
    have hnumber := number_of_scan (Numeral.scan_toDigits _) (Numeral.value?_of_nonneg hnonneg)
    rw [Nat.toList_repr]
    obtain ⟨c, rest, htext⟩ := List.exists_cons_of_ne_nil
      (Nat.toDigits_ne_nil (n := n.val.toNat) (b := 10))
    have hdigit : c.isDigit = true :=
      Numeral.isDigit_of_mem_toDigits (htext ▸ List.mem_cons_self)
    rw [htext] at hnumber ⊢
    rw [scalar_of_number (by rw [hdigit, Bool.or_true])]
    exact hnumber
  · rename_i hneg
    rw [String.toList_append, Nat.toList_repr]
    exact number_of_scan (Numeral.magnitude_toDigits true _) (Numeral.value?_of_neg (by omega))

/-! ### Texts -/

theorem hexDigits_small {n : Nat} (h : n < 0x10) :
    ∃ d, Text.hexDigits n = [d] ∧ hexDigit? d = some n := by
  refine ⟨n.digitChar, Nat.toDigits_of_lt_base h, ?_⟩
  interval_cases n <;> decide

/-- From sixteen on a control has two digits, the first of which is a one. -/
theorem hexDigits_control {n : Nat} (hlow : 0x10 ≤ n) (hhigh : n < 0x20) :
    ∃ d, Text.hexDigits n = ['1', d] ∧ hexDigit? d = some (n - 0x10) := by
  refine ⟨(n % 16).digitChar, ?_, ?_⟩
  · rw [Text.hexDigits, Nat.toDigits_of_base_le (by decide) hlow,
      Nat.toDigits_of_lt_base (show n / 16 < 16 by omega)]
    have hone : n / 16 = 1 := by omega
    rw [hone]
    rfl
  · interval_cases n <;> decide

theorem escapedChar_control {c high low : Char} (hcontrol : c.toNat < 0x20)
    (hhigh : hexDigit? high = some (c.toNat / 16)) (hlow : hexDigit? low = some (c.toNat % 16))
    (rest : List Char) : escapedChar ('u' :: '0' :: '0' :: high :: low :: rest) = .ok (c, rest) := by
  have hzero : hexDigit? '0' = some 0 := rfl
  have hunit : codeUnit ('0' :: '0' :: high :: low :: rest) = .ok (c.toNat, rest) := by
    have hsum : ((0 * 16 + 0) * 16 + c.toNat / 16) * 16 + c.toNat % 16 = c.toNat := by omega
    simp only [codeUnit, hzero, hhigh, hlow, hsum]
  have hnotLow : isLowSurrogate c.toNat = false := by
    simp only [isLowSurrogate, Bool.and_eq_false_iff, decide_eq_false_iff_not]
    omega
  have hnotHigh : isHighSurrogate c.toNat = false := by
    simp only [isHighSurrogate, Bool.and_eq_false_iff, decide_eq_false_iff_not]
    omega
  simp only [escapedChar, unicodeEscape, hunit, hnotLow, hnotHigh, Bool.false_eq_true, if_false,
    Char.ofNat_toNat]

/-- Reading an escaped character gives the character. -/
theorem textAfter_escapeChar (c : Char) (read rest : List Char) :
    textAfter read (escapeChar c ++ rest) = textAfter (c :: read) rest := by
  unfold escapeChar
  -- The characters that have a letter of their own.
  iterate 7
    split
    · rename_i h
      subst h
      exact textAfter_escape read rfl
  split
  · rename_i hsmall
    obtain ⟨low, hdigits, hlow⟩ := hexDigits_small hsmall
    have hhigh : hexDigit? '0' = some (c.toNat / 16) := by
      rw [Nat.div_eq_of_lt hsmall]
      rfl
    rw [hdigits]
    rw [← Nat.mod_eq_of_lt hsmall] at hlow
    exact textAfter_escape read (escapedChar_control (by omega) hhigh hlow rest)
  split
  · rename_i hlarge hcontrol
    obtain ⟨low, hdigits, hlow⟩ := hexDigits_control (Nat.not_lt.mp hlarge) hcontrol
    have hhigh : hexDigit? '1' = some (c.toNat / 16) := by
      have hone : c.toNat / 16 = 1 := by omega
      rw [hone]
      rfl
    have hmod : c.toNat - 0x10 = c.toNat % 16 := by omega
    rw [hdigits]
    rw [hmod] at hlow
    exact textAfter_escape read (escapedChar_control hcontrol hhigh hlow rest)
  · rename_i hquote hslash _ _ _ _ _ _ hcontrol
    exact textAfter_plain read rest hquote hslash (by simpa [isControl] using hcontrol)

/-- By induction on the text: each of its characters comes back as itself, whether it is escaped or
not. -/
theorem textAfter_escaped (text read rest : List Char) :
    textAfter read (text.flatMap escapeChar ++ '"' :: rest) =
      .ok (String.ofList (read.reverse ++ text), rest) := by
  induction text generalizing read with
  | nil => simp [textAfter_quote]
  | cons c text ih =>
    rw [List.flatMap_cons, List.append_assoc, textAfter_escapeChar, ih]
    simp

/-- A text is read back from between its quotes. -/
theorem textBody_escaped (s : String) :
    textBody (s.toList.flatMap escapeChar ++ ['"']) = .ok (s, []) := by
  rw [textBody, textAfter_escaped]
  simp

/-! ### Layouts -/

/-- Items laid out with a gap in front of each and a comma behind all but the last. -/
theorem spellsItems_layout {gap closing : List Char} {chars : Value → List Char}
    {layout : List Value → List Char} (hgap : Blank gap) (hclosing : Blank closing)
    (hcons : ∀ v rest, layout (v :: rest) =
      gap ++ chars v ++ if rest.isEmpty then [] else ',' :: layout rest)
    {v : Value} {items : List Value} (hitems : ∀ w ∈ v :: items, Spells w (chars w)) {first : Bool}
    {separator : List Char} (hlead : Lead first (separator ++ gap)) :
    SpellsItems first (v :: items) (separator ++ (layout (v :: items) ++ (closing ++ [']']))) := by
  induction items generalizing v first separator with
  | nil =>
    have hspells := SpellsItems.item hlead (hitems v List.mem_cons_self)
      (SpellsItems.close hclosing)
    simpa [hcons] using hspells
  | cons w items ih =>
    have hcomma : Lead false ([','] ++ gap) := .next blank_nil hgap
    have hothers := ih (fun u hu => hitems u (List.mem_cons_of_mem v hu)) hcomma
    have hspells := SpellsItems.item hlead (hitems v List.mem_cons_self) hothers
    simpa [hcons v] using hspells

/-- Members laid out with a gap in front of each and one behind each colon. -/
theorem spellsMembers_layout {gap inner closing : List Char} {chars : Value → List Char}
    {layout : List (String × Value) → List Char} (hgap : Blank gap) (hinner : Blank inner)
    (hclosing : Blank closing) (hcons : ∀ key v rest, layout ((key, v) :: rest) =
      gap ++ textChars key ++ ':' :: inner ++ chars v ++
        if rest.isEmpty then [] else ',' :: layout rest)
    {m : String × Value} {members : List (String × Value)}
    (hmembers : ∀ n ∈ m :: members, Spells n.2 (chars n.2)) {first : Bool} {separator : List Char}
    (hlead : Lead first (separator ++ gap)) :
    SpellsMembers first (m :: members)
      (separator ++ (layout (m :: members) ++ (closing ++ ['}']))) := by
  induction members generalizing m first separator with
  | nil =>
    obtain ⟨key, v⟩ := m
    have hspells := SpellsMembers.member hlead (textBody_escaped key) blank_nil hinner
      (hmembers (key, v) List.mem_cons_self) (SpellsMembers.close hclosing)
    simpa [hcons, textChars] using hspells
  | cons n members ih =>
    obtain ⟨key, v⟩ := m
    have hcomma : Lead false ([','] ++ gap) := .next blank_nil hgap
    have hothers := ih (fun u hu => hmembers u (List.mem_cons_of_mem _ hu)) hcomma
    have hspells := SpellsMembers.member hlead (textBody_escaped key) blank_nil hinner
      (hmembers (key, v) List.mem_cons_self) hothers
    simpa [hcons key, textChars] using hspells

/-- A binary number is left out, as its shortest decimal may be read with a rounding of its own. -/
theorem spells_scalarChars {v : Value} (hplain : v.IsPlain) (hreal : v.HoldsNoReal) :
    Spells v (scalarChars v) := by
  refine .scalar ?_
  cases v with
  | null => rfl
  | bool b =>
    cases b with
    | true => rfl
    | false => rfl
  | integer n => exact scalar_integer n
  | real x => exact absurd (.self _) (hreal x)
  | text s =>
    rw [scalarChars, textChars, List.cons_append, scalar, textBody_escaped]
  | array items => exact hplain.elim
  | object members => exact hplain.elim

/-- The text of a value without spaces is a spelling of it. -/
theorem spells_compactChars {v : Value} (hreal : v.HoldsNoReal) : Spells v (compactChars v) := by
  induction v using Value.induction with
  | array items ih =>
    rw [compactChars]
    cases items with
    | nil => exact .array (.close blank_nil)
    | cons v items =>
      have hitems : ∀ w ∈ v :: items, Spells w (compactChars w) :=
        fun w hw => ih w hw (hreal.item hw)
      have hspells : SpellsItems true (v :: items)
          ([] ++ (compactItems (v :: items) ++ ([] ++ [']']))) :=
        spellsItems_layout blank_nil blank_nil (fun w rest => by rw [compactItems]; rfl) hitems
          (.first blank_nil)
      simpa using Spells.array hspells
  | object members ih =>
    rw [compactChars]
    cases members with
    | nil => exact .object (.close blank_nil)
    | cons m members =>
      have hmembers : ∀ n ∈ m :: members, Spells n.2 (compactChars n.2) :=
        fun n hn => ih n hn (hreal.member hn)
      have hspells : SpellsMembers true (m :: members)
          ([] ++ (compactMembers (m :: members) ++ ([] ++ ['}']))) :=
        spellsMembers_layout blank_nil blank_nil blank_nil
          (fun key w rest => by rw [compactMembers]; simp) hmembers (.first blank_nil)
      simpa using Spells.object hspells
  | _ => exact spells_scalarChars trivial hreal

theorem blank_lineBreak (level : Nat) : Blank (lineBreak level) := by
  rintro c (_ | ⟨_, hc⟩)
  · rfl
  · rw [List.eq_of_mem_replicate hc]
    rfl

/-- The text of a value on several lines is a spelling of it. -/
theorem spells_prettyChars {v : Value} (hreal : v.HoldsNoReal) (level : Nat) :
    Spells v (prettyChars level v) := by
  induction v using Value.induction generalizing level with
  | array items ih =>
    rw [prettyChars]
    cases items with
    | nil => exact .array (.close blank_nil)
    | cons v items =>
      have hitems : ∀ w ∈ v :: items, Spells w (prettyChars (level + 1) w) :=
        fun w hw => ih w hw (hreal.item hw) (level + 1)
      have hspells : SpellsItems true (v :: items)
          ([] ++ (prettyItems (level + 1) (v :: items) ++ (lineBreak level ++ [']']))) :=
        spellsItems_layout (blank_lineBreak (level + 1)) (blank_lineBreak level)
          (fun w rest => by rw [prettyItems]) hitems (.first (blank_lineBreak _))
      simpa using Spells.array hspells
  | object members ih =>
    rw [prettyChars]
    cases members with
    | nil => exact .object (.close blank_nil)
    | cons m members =>
      have hmembers : ∀ n ∈ m :: members, Spells n.2 (prettyChars (level + 1) n.2) :=
        fun n hn => ih n hn (hreal.member hn) (level + 1)
      have hinner : Blank [' '] := by
        rintro c (_ | ⟨_, ⟨⟩⟩)
        rfl
      have hspells : SpellsMembers true (m :: members)
          ([] ++ (prettyMembers (level + 1) (m :: members) ++ (lineBreak level ++ ['}']))) :=
        spellsMembers_layout (blank_lineBreak (level + 1)) hinner (blank_lineBreak level)
          (fun key w rest => by rw [prettyMembers]; simp) hmembers (.first (blank_lineBreak _))
      simpa using Spells.object hspells
  | _ => exact spells_scalarChars trivial hreal

theorem pretty_mem_layouts (v : Value) : v.pretty ∈ [v.compact, v.pretty] :=
  List.mem_cons_of_mem _ List.mem_cons_self

/-- Both texts of a value without real numbers spell the value. -/
theorem spelled_of_mem_layouts {v : Value} (hreal : v.HoldsNoReal) {text : String}
    (htext : text ∈ [v.compact, v.pretty]) : Spelled text v := by
  simp only [List.mem_cons, List.not_mem_nil, or_false] at htext
  rcases htext with rfl | rfl
  · exact ⟨[], compactChars v, [], by simp [Value.compact], blank_nil, blank_nil,
      spells_compactChars hreal⟩
  · exact ⟨[], prettyChars 0 v, [], by simp [Value.pretty], blank_nil, blank_nil,
      spells_prettyChars hreal 0⟩

end ClusterAdvisor.Json
