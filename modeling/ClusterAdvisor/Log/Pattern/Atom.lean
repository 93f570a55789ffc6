import ClusterAdvisor.Text.Blank

/-!
The smallest parts of a pattern: single characters, and the escapes that stand for a character, for
a class of characters or for a position. The mode in which a part stands decides whether it can be
compared: letters of other cases, classes by property and boundaries of words need tables of
characters, which patterns do without, and no part may split a character into bytes.
-/

namespace ClusterAdvisor.Log.Pattern

structure Mode where
  /-- Texts are compared by characters and not by bytes. -/
  unicode : Bool
  /-- The case of letters does not count. -/
  folds : Bool
  /-- Blanks and comments do not count. -/
  spaced : Bool
  deriving DecidableEq, Repr

def Mode.standard : Mode := ⟨true, false, false⟩

/-- Drops blanks, and comments from a number sign to the end of the line. -/
def dropBlanks : (inComment : Bool) → List Char → List Char
  | _, [] => []
  | true, c :: rest => dropBlanks (c ≠ '\n') rest
  | false, c :: rest =>
    if Text.isBlank c then dropBlanks false rest
    else if c = '#' then dropBlanks true rest
    else c :: rest

def Mode.skip (m : Mode) (text : List Char) : List Char :=
  if m.spaced then dropBlanks false text else text

/-- What a character of a pattern, or an escape, stands for. -/
inductive Atom where
  /-- A character; `asByte` tells that it was written as the number of a byte. -/
  | literal (c : Char) (asByte : Bool)
  /-- Any character. -/
  | anything
  /-- The start or the end of the text. -/
  | position
  /-- A boundary of words, or the lack of one. -/
  | wordBoundary
  /-- Digits, blanks or the characters of words; or all other characters. -/
  | namedClass (negated : Bool)
  deriving DecidableEq, Repr

namespace Atom

/-- Whether a part can be compared outside of brackets. -/
def isComparable (m : Mode) : Atom → Bool
  | literal c asByte => if m.unicode then !m.folds else !asByte || c.val < 0x80
  | anything => m.unicode
  | position => true
  | wordBoundary => !m.unicode
  | namedClass negated => !m.unicode && !negated

/-- Whether a part can be a member of a set: a set of bytes holds nothing beyond ASCII. -/
def isMember (m : Mode) : Atom → Bool
  | literal c _ => if m.unicode then !m.folds else c.val < 0x80
  | namedClass negated => !m.unicode && !negated
  | _ => false

/-- Whether two parts are the ends of a range that can be a member of a set. -/
def isRange (m : Mode) : Atom → Atom → Bool
  | literal a x, literal b y => a ≤ b && isMember m (literal a x) && isMember m (literal b y)
  | _, _ => false

end Atom

def hexValue? (c : Char) : Option Nat :=
  if c.isDigit then some (c.toNat - '0'.toNat)
  else if 'a' ≤ c && c ≤ 'f' then some (c.toNat - 'a'.toNat + 10)
  else if 'A' ≤ c && c ≤ 'F' then some (c.toNat - 'A'.toNat + 10)
  else none

/-- The number of the hexadecimal digits in front of a text, with those before it. -/
def hexadecimal? (m : Mode) : (digits value : Nat) → List Char → Option (Nat × List Char)
  | 0, value, text => some (value, text)
  | digits + 1, value, text =>
    match m.skip text with
    | [] => none
    | c :: rest =>
      match hexValue? c with
      | some digit => hexadecimal? m digits (16 * value + digit) rest
      | none => none

def escapeDigits? : Char → Option Nat
  | 'x' => some 2
  | 'u' => some 4
  | 'U' => some 8
  | _ => none

def isEscapable (c : Char) : Bool :=
  c.val < 0x80 && !c.isAlphanum && c ≠ '<' && c ≠ '>'

def shortEscape? : Char → Option Atom
  | 'a' => some (.literal '\x07' false)
  | 'f' => some (.literal '\x0c' false)
  | 'n' => some (.literal '\n' false)
  | 'r' => some (.literal '\r' false)
  | 't' => some (.literal '\t' false)
  | 'v' => some (.literal '\x0b' false)
  | 'A' | 'z' => some .position
  | 'b' | 'B' | '<' | '>' => some .wordBoundary
  | 'd' | 's' | 'w' => some (.namedClass false)
  | 'D' | 'S' | 'W' => some (.namedClass true)
  | c => if isEscapable c then some (.literal c false) else none

def escape? (m : Mode) : List Char → Option (Atom × List Char)
  | [] => none
  | c :: rest =>
    match escapeDigits? c with
    | some digits =>
      match hexadecimal? m digits 0 rest with
      | some (value, rest) =>
        if value.isValidChar then some (.literal (Char.ofNat value) (c = 'x'), rest) else none
      | none => none
    | none => (shortEscape? c).map (·, rest)

theorem dropBlanks_length_le (inComment : Bool) (text : List Char) :
    (dropBlanks inComment text).length ≤ text.length := by
  fun_induction dropBlanks inComment text <;> grind

theorem Mode.skip_length_le (m : Mode) (text : List Char) : (m.skip text).length ≤ text.length := by
  unfold Mode.skip
  split
  · exact dropBlanks_length_le false text
  · exact Nat.le_refl _

theorem Mode.length_lt_of_skip {m : Mode} {text rest : List Char} {c : Char}
    (h : m.skip text = c :: rest) : rest.length < text.length := by
  have := m.skip_length_le text
  rw [h, List.length_cons] at this
  omega

theorem hexadecimal?_length_le {m : Mode} {digits value found : Nat} {text rest : List Char}
    (h : hexadecimal? m digits value text = some (found, rest)) : rest.length ≤ text.length := by
  fun_induction hexadecimal? m digits value text with
  | case1 => simp_all
  | case2 => cases h
  | case3 digits value text c left hskip digit hdigit ih =>
    have := Mode.length_lt_of_skip hskip
    have := ih h
    omega
  | case4 => cases h

theorem escape?_length_lt {m : Mode} {text rest : List Char} {a : Atom}
    (h : escape? m text = some (a, rest)) : rest.length < text.length := by
  unfold escape? at h
  split at h
  · cases h
  · split at h
    · split at h
      · rename_i hdigits
        have := hexadecimal?_length_le hdigits
        split at h
        · cases h
          simp only [List.length_cons]
          omega
        · cases h
      · cases h
    · simp only [Option.map_eq_some_iff, Prod.mk.injEq] at h
      obtain ⟨_, _, _, rfl⟩ := h
      simp

end ClusterAdvisor.Log.Pattern
