import ClusterAdvisor.Json.Skip

/-!
Where tokens end. A reader of a token looks no further than the characters it takes, so these can
stand in front of any other text; only a number has to be kept apart from what would continue it.
This is what lets a spelling be put together from the spellings of its parts.
-/

namespace ClusterAdvisor.Json

/-- What a reader takes off a text is the same in front of any other text that is fit to follow. -/
def Detachable {ε α : Type} (read : List Char → Except ε (α × List Char))
    (follows : List Char → Prop) : Prop :=
  ∀ {text : List Char} {a : α} {rest : List Char}, read text = .ok (a, rest) →
    ∃ taken, text = taken ++ rest ∧ ∀ other, follows other → read (taken ++ other) = .ok (a, other)

/-- Whether a character could be a part of the number in front of it. -/
def continuesNumber (c : Char) : Bool := c.isDigit || c = '.' || c = 'e' || c = 'E'

/-- A text in front of which a number ends. -/
def EndsNumber (text : List Char) : Prop := ∀ c ∈ text.head?, continuesNumber c = false

/-- A text in front of which a run of digits ends. -/
def EndsDigits (text : List Char) : Prop := ∀ c ∈ text.head?, c.isDigit = false

/-- A text in front of which a fraction ends, also one that is not there. -/
def EndsFraction (text : List Char) : Prop := ∀ c ∈ text.head?, c.isDigit = false ∧ c ≠ '.'

def AnyText (_ : List Char) : Prop := True

theorem endsNumber_nil : EndsNumber [] := by
  intro c hc
  cases hc

theorem endsNumber_cons {c : Char} (hc : continuesNumber c = false) (rest : List Char) :
    EndsNumber (c :: rest) := by
  rintro _ ⟨⟩
  exact hc

theorem mem_head?_append {c : Char} {front back : List Char} (h : c ∈ (front ++ back).head?) :
    c ∈ front.head? ∨ c ∈ back.head? := by
  cases front with
  | nil => exact Or.inr h
  | cons d more => exact Or.inl h

theorem EndsNumber.endsFraction {text : List Char} (h : EndsNumber text) : EndsFraction text := by
  intro c hc
  have hcontinues := h c hc
  simp only [continuesNumber, Bool.or_eq_false_iff, decide_eq_false_iff_not] at hcontinues
  exact ⟨hcontinues.1.1.1, hcontinues.1.1.2⟩

theorem EndsNumber.endsDigits {text : List Char} (h : EndsNumber text) : EndsDigits text :=
  fun c hc => (h.endsFraction c hc).1

/-! ### Words -/

theorem word_append (letters rest : List Char) : word letters (letters ++ rest) = .ok rest := by
  induction letters with
  | nil => rfl
  | cons letter letters ih => simpa [word] using ih

theorem eq_append_of_word {letters text rest : List Char} (h : word letters text = .ok rest) :
    text = letters ++ rest := by
  fun_induction word letters text with
  | case1 => cases h; rfl
  | case2 => cases h
  | case3 letters c text ih => rw [ih h, List.cons_append]
  | case4 => cases h

theorem constant_append (letters : String) (v : Value) (rest : List Char) :
    constant letters v (letters.toList ++ rest) = .ok (v, rest) := by
  simp [constant, word_append]

theorem detachable_constant (letters : String) (v : Value) :
    Detachable (constant letters v) AnyText := by
  intro text a rest h
  unfold constant at h
  split at h
  · rename_i hword
    cases h
    exact ⟨_, eq_append_of_word hword, fun other _ => constant_append letters v other⟩
  · cases h

/-! ### Texts -/

theorem detachable_codeUnit : Detachable codeUnit AnyText := by
  intro text unit rest h
  unfold codeUnit at h
  split at h
  · rename_i a b c d more
    split at h
    · rename_i ha hb hc hd
      cases h
      exact ⟨[a, b, c, d], rfl, fun other _ => by simp [codeUnit, ha, hb, hc, hd]⟩
    · cases h
  · cases h

theorem detachable_unicodeEscape : Detachable unicodeEscape AnyText := by
  intro text c rest h
  unfold unicodeEscape at h
  split at h
  · cases h
  · rename_i unit more hunit
    obtain ⟨taken, rfl, hagain⟩ := detachable_codeUnit hunit
    split at h
    · cases h
    · rename_i hlow
      split at h
      · rename_i hhigh
        split at h
        · rename_i second
          split at h
          · cases h
          · rename_i low left hsecond
            obtain ⟨pair, rfl, hpair⟩ := detachable_codeUnit hsecond
            split at h
            · rename_i hjoined
              simp only [Except.ok.injEq, Prod.mk.injEq] at h
              obtain ⟨rfl, rfl⟩ := h
              refine ⟨taken ++ '\\' :: 'u' :: pair, by simp, fun other _ => ?_⟩
              have hfirst := hagain ('\\' :: 'u' :: (pair ++ other)) trivial
              have hlast := hpair other trivial
              rw [List.append_assoc, List.cons_append, List.cons_append, unicodeEscape, hfirst]
              simp only [hlow, hhigh, hlast, hjoined, if_true, Bool.false_eq_true, if_false]
            · cases h
        · cases h
        · cases h
        · cases h
      · rename_i hhigh
        cases h
        refine ⟨taken, rfl, fun other _ => ?_⟩
        rw [unicodeEscape, hagain other trivial]
        simp only [hlow, hhigh, Bool.false_eq_true, if_false]

theorem detachable_escapedChar : Detachable escapedChar AnyText := by
  intro text c rest h
  unfold escapedChar at h
  split at h
  · cases h
  · obtain ⟨taken, rfl, hagain⟩ := detachable_unicodeEscape h
    exact ⟨'u' :: taken, rfl, fun other _ => by simp [escapedChar, hagain other trivial]⟩
  · rename_i first more hnot
    split at h
    · rename_i meaning hmeaning
      cases h
      refine ⟨[first], rfl, fun other _ => ?_⟩
      rw [List.cons_append, escapedChar, hmeaning]
      · rfl
      · exact hnot
    · cases h

theorem textAfter_quote (read rest : List Char) :
    textAfter read ('"' :: rest) = .ok (String.ofList read.reverse, rest) := by
  rw [textAfter]

theorem textAfter_escape {text rest : List Char} {c : Char} (read : List Char)
    (h : escapedChar text = .ok (c, rest)) :
    textAfter read ('\\' :: text) = textAfter (c :: read) rest := by
  rw [textAfter]
  split
  · rename_i hescape
    rw [h] at hescape
    cases hescape
    rfl
  · rename_i hescape
    rw [h] at hescape
    cases hescape

theorem textAfter_plain {c : Char} (read text : List Char) (hquote : c ≠ '"') (hslash : c ≠ '\\')
    (hcontrol : isControl c = false) :
    textAfter read (c :: text) = textAfter (c :: read) text := by
  rw [textAfter.eq_def]
  split
  · rename_i heq
    cases heq
  · rename_i heq
    cases heq
    exact absurd rfl hquote
  · rename_i heq
    cases heq
    exact absurd rfl hslash
  · rename_i heq
    cases heq
    rw [if_neg (by simp [hcontrol])]

/-- By induction on the text, along the cases of the reader. -/
theorem detachable_textAfter (read : List Char) : Detachable (textAfter read) AnyText := by
  intro text s rest h
  fun_induction textAfter read text with
  | case1 => cases h
  | case2 read more =>
    cases h
    exact ⟨['"'], rfl, fun other _ => textAfter_quote read other⟩
  | case3 read more c left hescape _ ih =>
    obtain ⟨escape, rfl, hfirst⟩ := detachable_escapedChar hescape
    obtain ⟨taken, rfl, hagain⟩ := ih h
    refine ⟨'\\' :: escape ++ taken, by simp, fun other _ => ?_⟩
    have hstep := hfirst (taken ++ other) trivial
    rw [List.cons_append, List.cons_append, List.append_assoc, textAfter_escape read hstep]
    exact hagain other trivial
  | case4 => cases h
  | case5 => cases h
  | case6 read c more hquote hslash hcontrol ih =>
    obtain ⟨taken, rfl, hagain⟩ := ih h
    refine ⟨c :: taken, rfl, fun other _ => ?_⟩
    have hplain : isControl c = false := by simpa using hcontrol
    rw [List.cons_append, textAfter_plain read _ hquote hslash hplain]
    exact hagain other trivial

theorem detachable_textBody : Detachable textBody AnyText := detachable_textAfter []

/-! ### Numbers -/

namespace Numeral

variable {text rest other : List Char}

/-- One digit or more. -/
structure Digits (text : List Char) : Prop where
  some : text ≠ []
  digit : ∀ c ∈ text, c.isDigit = true

theorem takeWhile_eq_nil_of_endsDigits (h : EndsDigits other) :
    other.takeWhile Char.isDigit = [] ∧ other.dropWhile Char.isDigit = other := by
  cases other with
  | nil => exact ⟨rfl, rfl⟩
  | cons c more =>
    have hc : c.isDigit = false := h c rfl
    simp [hc]

/-- Digits are taken up to the last one, so none must follow. -/
theorem someDigits_append {taken : List Char} (h : Digits taken) (hends : EndsDigits other) :
    someDigits (taken ++ other) = .ok (taken.map digitValue, other) := by
  obtain ⟨htake, hdrop⟩ := takeWhile_eq_nil_of_endsDigits hends
  cases taken with
  | nil => exact absurd rfl h.some
  | cons c more =>
    have hfirst : c.isDigit = true := h.digit c List.mem_cons_self
    have hmore : ∀ d ∈ more, d.isDigit = true := fun d hd => h.digit d (List.mem_cons_of_mem c hd)
    simp only [List.cons_append, someDigits, hfirst, if_true, digits, afterDigits,
      List.takeWhile_cons, List.takeWhile_append_of_pos hmore, List.dropWhile_append_of_pos hmore,
      htake, hdrop, List.append_nil]

theorem exists_of_someDigits {ds : List Nat} (h : someDigits text = .ok (ds, rest)) :
    ∃ taken, Digits taken ∧ text = taken ++ rest ∧ ds = taken.map digitValue := by
  cases text with
  | nil => cases h
  | cons c more =>
    simp only [someDigits] at h
    split at h
    · rename_i hfirst
      cases h
      refine ⟨c :: more.takeWhile Char.isDigit, ⟨List.cons_ne_nil _ _, ?_⟩, ?_, ?_⟩
      · rintro d (_ | ⟨_, hd⟩)
        · exact hfirst
        · exact List.all_eq_true.mp List.all_takeWhile d hd
      · rw [List.cons_append, afterDigits, List.takeWhile_append_dropWhile]
      · simp [digits, hfirst]
    · cases h

/-- The digits before the point: a zero alone, or digits that do not start with one. -/
inductive Whole : List Char → Prop where
  | zero : Whole ['0']
  | digits {text : List Char} (h : Digits text) (hzero : text.head? ≠ some '0') : Whole text

/-- A zero is taken by itself, and digits behind it would be left over. -/
theorem wholePart_append {taken : List Char} (h : Whole taken) (hends : EndsDigits other) :
    wholePart (taken ++ other) = .ok (taken.map digitValue, other) := by
  cases h with
  | zero =>
    have hnone : other.head?.any Char.isDigit = false := by
      cases other with
      | nil => rfl
      | cons c more => exact hends c rfl
    simp [wholePart, hnone, digitValue]
  | digits hdigits hzero =>
    rw [← someDigits_append hdigits hends, wholePart.eq_def]
    split
    · rename_i heq
      cases taken with
      | nil => exact absurd rfl hdigits.some
      | cons c more =>
        cases heq
        exact absurd rfl hzero
    · rfl

theorem exists_of_wholePart {ds : List Nat} (h : wholePart text = .ok (ds, rest)) :
    ∃ taken, Whole taken ∧ text = taken ++ rest ∧ ds = taken.map digitValue := by
  unfold wholePart at h
  split at h
  · split at h
    · cases h
    · cases h
      exact ⟨['0'], .zero, rfl, rfl⟩
  · rename_i hnot
    obtain ⟨taken, hdigits, rfl, rfl⟩ := exists_of_someDigits h
    refine ⟨taken, .digits hdigits ?_, rfl, rfl⟩
    intro hzero
    obtain ⟨more, rfl⟩ := List.head?_eq_some_iff.mp hzero
    exact hnot _ rfl

/-- The digits behind the point, and the point; or nothing. -/
inductive Fraction : List Char → Prop where
  | absent : Fraction []
  | point {text : List Char} (h : Digits text) : Fraction ('.' :: text)

theorem fractionPart_append {taken : List Char} (h : Fraction taken) (hends : EndsFraction other) :
    fractionPart (taken ++ other) = .ok ((taken.drop 1).map digitValue, other) := by
  cases h with
  | absent =>
    rw [List.nil_append]
    unfold fractionPart
    split
    · exact absurd rfl (hends '.' rfl).2
    · rfl
  | point hdigits => exact someDigits_append hdigits fun c hc => (hends c hc).1

theorem exists_of_fractionPart {ds : List Nat} (h : fractionPart text = .ok (ds, rest)) :
    ∃ taken, Fraction taken ∧ text = taken ++ rest ∧ ds = (taken.drop 1).map digitValue := by
  unfold fractionPart at h
  split at h
  · obtain ⟨taken, hdigits, rfl, rfl⟩ := exists_of_someDigits h
    exact ⟨'.' :: taken, .point hdigits, rfl, rfl⟩
  · cases h
    exact ⟨[], .absent, rfl, rfl⟩

/-- The letter, the sign and the digits of an exponent; or nothing. -/
inductive Exponent : List Char → Prop where
  | absent : Exponent []
  | power {c : Char} {sign text : List Char} (hc : (c = 'e' || c = 'E') = true)
      (hsign : sign ∈ [[], ['+'], ['-']]) (h : Digits text) : Exponent (c :: (sign ++ text))

def exponentSign (text : List Char) : Bool × List Char :=
  match text with
  | '+' :: more => (false, more)
  | '-' :: more => (true, more)
  | _ => (false, text)

theorem exponentSign_append {sign taken : List Char} (hsign : sign ∈ [[], ['+'], ['-']])
    (h : Digits taken) (other : List Char) :
    exponentSign (sign ++ (taken ++ other)) = (decide (sign = ['-']), taken ++ other) := by
  simp only [List.mem_cons, List.not_mem_nil, or_false] at hsign
  rcases hsign with rfl | rfl | rfl
  · cases taken with
    | nil => exact absurd rfl h.some
    | cons c more =>
      have hc := h.digit c List.mem_cons_self
      rw [List.nil_append, List.cons_append]
      unfold exponentSign
      split
      · rename_i heq
        cases heq
        cases hc
      · rename_i heq
        cases heq
        cases hc
      · rfl
  · rfl
  · rfl

theorem exists_of_exponentSign {negative : Bool} (h : exponentSign text = (negative, rest)) :
    ∃ sign ∈ [[], ['+'], ['-']], text = sign ++ rest ∧ negative = decide (sign = ['-']) := by
  unfold exponentSign at h
  split at h
  · cases h
    exact ⟨['+'], by simp, rfl, rfl⟩
  · cases h
    exact ⟨['-'], by simp, rfl, rfl⟩
  · cases h
    exact ⟨[], by simp, rfl, rfl⟩

def signedExponent (negative : Bool) (ds : List Nat) : Int :=
  if negative then -(natOfDigits ds : Int) else natOfDigits ds

/-- Without its letter there is no exponent, and nothing is taken off. -/
theorem exponentPart_absent (hends : EndsNumber other) :
    exponentPart other = .ok (none, other) := by
  cases other with
  | nil => rfl
  | cons c more =>
    have hc := hends c rfl
    simp only [continuesNumber, Bool.or_eq_false_iff] at hc
    simp [exponentPart, hc.1.2, hc.2]

theorem exponentPart_cons {c : Char} (hc : (c = 'e' || c = 'E') = true) (text : List Char) :
    exponentPart (c :: text) =
      match someDigits (exponentSign text).2 with
      | .ok (ds, left) => .ok (some (signedExponent (exponentSign text).1 ds), left)
      | .error flaw => .error flaw := by
  simp only [exponentPart.eq_def, hc, if_true]
  rfl

theorem exponentPart_power {c : Char} {sign taken : List Char} (hc : (c = 'e' || c = 'E') = true)
    (hsign : sign ∈ [[], ['+'], ['-']]) (h : Digits taken) (hends : EndsDigits other) :
    exponentPart (c :: (sign ++ (taken ++ other))) =
      .ok (some (signedExponent (decide (sign = ['-'])) (taken.map digitValue)), other) := by
  rw [exponentPart_cons hc, exponentSign_append hsign h, someDigits_append h hends]

/-- An exponent is read as the same one in front of everything that a number ends in front of. -/
theorem Exponent.append {taken : List Char} (h : Exponent taken) :
    ∃ e, ∀ other, EndsNumber other → exponentPart (taken ++ other) = .ok (e, other) := by
  cases h with
  | absent => exact ⟨none, fun other hends => exponentPart_absent hends⟩
  | @power c sign digits hc hsign hdigits =>
    refine ⟨some (signedExponent (decide (sign = ['-'])) (digits.map digitValue)),
      fun other hends => ?_⟩
    rw [List.cons_append, List.append_assoc]
    exact exponentPart_power hc hsign hdigits hends.endsDigits

/-- The converse of `Exponent.append`. -/
theorem exists_of_exponentPart {e : Option Int} (h : exponentPart text = .ok (e, rest)) :
    ∃ taken, Exponent taken ∧ text = taken ++ rest ∧
      ∀ other, EndsNumber other → exponentPart (taken ++ other) = .ok (e, other) := by
  cases text with
  | nil =>
    cases h
    exact ⟨[], .absent, rfl, fun other hends => exponentPart_absent hends⟩
  | cons c more =>
    by_cases hc : (c = 'e' || c = 'E') = true
    · rw [exponentPart_cons hc] at h
      cases hmore : exponentSign more with
      | mk negative start =>
      obtain ⟨sign, hsign, rfl, rfl⟩ := exists_of_exponentSign hmore
      rw [hmore] at h
      split at h
      · rename_i hdigits
        cases h
        obtain ⟨taken, htaken, rfl, rfl⟩ := exists_of_someDigits hdigits
        refine ⟨c :: (sign ++ taken), .power hc hsign htaken, by simp, fun other hends => ?_⟩
        rw [List.cons_append, List.append_assoc]
        exact exponentPart_power hc hsign htaken hends.endsDigits
      · cases h
    · simp only [exponentPart.eq_def, hc, if_false, Bool.false_eq_true] at h
      cases h
      exact ⟨[], .absent, rfl, fun other hends => exponentPart_absent hends⟩

/-- The spellings of a number without its sign. -/
inductive Unsigned : List Char → Prop where
  | mk {whole fraction exponent : List Char} (hwhole : Whole whole) (hfraction : Fraction fraction)
      (hexponent : Exponent exponent) : Unsigned (whole ++ (fraction ++ exponent))

/-- Each part of a number ends in front of the next one that is there, by how that one starts. -/
theorem magnitude_append (negative : Bool) {whole fraction exponent : List Char} {e : Option Int}
    (hwhole : Whole whole) (hfraction : Fraction fraction) (hexponent : Exponent exponent)
    (hpower : exponentPart (exponent ++ other) = .ok (e, other)) (hends : EndsNumber other) :
    magnitude negative (whole ++ (fraction ++ exponent) ++ other) =
      .ok (⟨negative, whole.map digitValue, (fraction.drop 1).map digitValue, e⟩, other) := by
  have hbehind : EndsFraction (exponent ++ other) := by
    cases hexponent with
    | absent => exact hends.endsFraction
    | power hc =>
      simp only [Bool.or_eq_true, decide_eq_true_eq] at hc
      rintro _ ⟨⟩
      rcases hc with rfl | rfl
      · decide
      · decide
  have hwithin : EndsDigits (fraction ++ (exponent ++ other)) := by
    cases hfraction with
    | absent => exact fun c hc => (hbehind c hc).1
    | point =>
      rintro _ ⟨⟩
      decide
  rw [List.append_assoc, List.append_assoc, magnitude, wholePart_append hwhole hwithin]
  simp only [fractionPart_append hfraction hbehind, hpower]

theorem exists_of_magnitude {negative : Bool} {n : Numeral}
    (h : magnitude negative text = .ok (n, rest)) :
    ∃ taken, Unsigned taken ∧ text = taken ++ rest ∧ ∀ other, EndsNumber other →
      magnitude negative (taken ++ other) = .ok (n, other) := by
  unfold magnitude at h
  split at h
  · cases h
  · rename_i hwhole
    split at h
    · cases h
    · rename_i hfraction
      split at h
      · cases h
      · rename_i hexponent
        cases h
        obtain ⟨whole, digits, rfl, rfl⟩ := exists_of_wholePart hwhole
        obtain ⟨fraction, point, rfl, rfl⟩ := exists_of_fractionPart hfraction
        obtain ⟨exponent, power, rfl, hpower⟩ := exists_of_exponentPart hexponent
        exact ⟨_, .mk digits point power, by simp, fun other hends =>
          magnitude_append negative digits point power (hpower other hends) hends⟩

theorem Unsigned.append {taken : List Char} (h : Unsigned taken) (negative : Bool) :
    ∃ n, ∀ other, EndsNumber other → magnitude negative (taken ++ other) = .ok (n, other) := by
  obtain ⟨hwhole, hfraction, hexponent⟩ := h
  obtain ⟨e, hpower⟩ := hexponent.append
  exact ⟨⟨negative, _, _, e⟩, fun other hends =>
    magnitude_append negative hwhole hfraction hexponent (hpower other hends) hends⟩

/-- A number without its sign starts with a digit. -/
theorem Unsigned.exists_digit {text : List Char} (h : Unsigned text) :
    ∃ c more, text = c :: more ∧ c.isDigit = true := by
  obtain ⟨hwhole, _, _⟩ := h
  cases hwhole with
  | zero => exact ⟨'0', _, rfl, by decide⟩
  | digits hdigits _ =>
    obtain ⟨c, more, rfl⟩ := List.exists_cons_of_ne_nil hdigits.some
    exact ⟨c, _, rfl, hdigits.digit c List.mem_cons_self⟩

/-- The spellings of a number, however large it is. -/
inductive Spelling : List Char → Prop where
  | plain {text : List Char} (h : Unsigned text) : Spelling text
  | minus {text : List Char} (h : Unsigned text) : Spelling ('-' :: text)

theorem scan_eq_magnitude {c : Char} (hc : c.isDigit = true) (more : List Char) :
    scan (c :: more) = magnitude false (c :: more) := by
  rw [scan]
  rintro left heq
  cases heq
  cases hc

theorem Spelling.append {taken : List Char} (h : Spelling taken) :
    ∃ n, ∀ other, EndsNumber other → scan (taken ++ other) = .ok (n, other) := by
  cases h with
  | plain hplain =>
    obtain ⟨n, hagain⟩ := hplain.append false
    obtain ⟨c, more, rfl, hc⟩ := hplain.exists_digit
    refine ⟨n, fun other hends => ?_⟩
    rw [List.cons_append, scan_eq_magnitude hc]
    exact hagain other hends
  | minus hplain => exact hplain.append true

/-- What is taken off is a spelling, and is taken alike in front of anything else that a number ends
in front of. -/
theorem exists_of_scan {n : Numeral} (h : scan text = .ok (n, rest)) :
    ∃ taken, Spelling taken ∧ text = taken ++ rest ∧
      ∀ other, EndsNumber other → scan (taken ++ other) = .ok (n, other) := by
  unfold scan at h
  split at h
  · obtain ⟨taken, hplain, rfl, hagain⟩ := exists_of_magnitude h
    exact ⟨'-' :: taken, .minus hplain, rfl, hagain⟩
  · obtain ⟨taken, hplain, rfl, hagain⟩ := exists_of_magnitude h
    obtain ⟨c, more, rfl, hc⟩ := hplain.exists_digit
    refine ⟨_, .plain hplain, rfl, fun other hends => ?_⟩
    rw [List.cons_append, scan_eq_magnitude hc]
    exact hagain other hends

end Numeral

/-- What is made of a number depends on its spelling alone. -/
theorem detachable_number : Detachable number EndsNumber := by
  intro text v rest h
  unfold number at h
  split at h
  · rename_i n left hscan
    split at h
    · rename_i value hvalue
      cases h
      obtain ⟨taken, _, rfl, hagain⟩ := Numeral.exists_of_scan hscan
      exact ⟨taken, rfl, fun other hends => by simp [number, hagain other hends, hvalue]⟩
    · cases h
  · cases h
  · cases h

/-! ### Values without parts -/

theorem detachable_scalar : Detachable scalar EndsNumber := by
  intro text v rest h
  unfold scalar at h
  split at h
  · cases h
  · obtain ⟨taken, rfl, hagain⟩ := detachable_constant "ull" .null h
    exact ⟨'n' :: taken, rfl, fun other _ => hagain other trivial⟩
  · obtain ⟨taken, rfl, hagain⟩ := detachable_constant "rue" (.bool true) h
    exact ⟨'t' :: taken, rfl, fun other _ => hagain other trivial⟩
  · obtain ⟨taken, rfl, hagain⟩ := detachable_constant "alse" (.bool false) h
    exact ⟨'f' :: taken, rfl, fun other _ => hagain other trivial⟩
  · split at h
    · rename_i hbody
      cases h
      obtain ⟨taken, rfl, hagain⟩ := detachable_textBody hbody
      refine ⟨'"' :: taken, rfl, fun other _ => ?_⟩
      rw [List.cons_append, scalar, hagain other trivial]
    · cases h
  · rename_i c more hn ht hf hquote
    split at h
    · rename_i hstart
      have hshort := number_length h
      obtain ⟨taken, heq, hagain⟩ := detachable_number h
      refine ⟨taken, heq, fun other hends => ?_⟩
      cases taken with
      | nil =>
        rw [heq] at hshort
        exact absurd hshort (Nat.lt_irrefl _)
      | cons d left =>
        cases heq
        rw [List.cons_append, scalar, if_pos hstart]
        · exact hagain other hends
        · exact hn
        · exact ht
        · exact hf
        · exact hquote
    · cases h

end ClusterAdvisor.Json
