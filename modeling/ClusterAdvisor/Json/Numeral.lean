import ClusterAdvisor.Json.Value

/-!
Numbers as they are spelled, and the values of the spellings. An integer that fits 64 bits is kept
exactly; every other number becomes a binary one, by way of the longest run of leading digits whose
integer fits 64 bits and a power of ten.
-/

namespace ClusterAdvisor.Json

open Decimal

/-- A spelled number, as lists of digits. -/
structure Numeral where
  negative : Bool
  whole : List Nat
  fraction : List Nat
  exponent : Option Int
  deriving DecidableEq, Repr

namespace Numeral

/-- Why a spelling is no number. -/
inductive Flaw where
  /-- The text ends where a digit is needed. -/
  | cutOff
  | malformed
  deriving DecidableEq, Repr

def digitValue (c : Char) : Nat := c.toNat - '0'.toNat

def digits (text : List Char) : List Nat := (text.takeWhile Char.isDigit).map digitValue

def afterDigits (text : List Char) : List Char := text.dropWhile Char.isDigit

def someDigits : List Char → Except Flaw (List Nat × List Char)
  | [] => .error .cutOff
  | c :: rest =>
    if c.isDigit then .ok (digits (c :: rest), afterDigits rest) else .error .malformed

/-- The digits before the point. A zero is the only one. -/
def wholePart : List Char → Except Flaw (List Nat × List Char)
  | '0' :: rest =>
    if (rest.head?.any Char.isDigit) then .error .malformed else .ok ([0], rest)
  | text => someDigits text

/-- The digits after a point, if there is one. -/
def fractionPart : List Char → Except Flaw (List Nat × List Char)
  | '.' :: rest => someDigits rest
  | text => .ok ([], text)

def natOfDigits (ds : List Nat) : Nat := ds.foldl (fun n d => 10 * n + d) 0

def exponentPart : List Char → Except Flaw (Option Int × List Char)
  | c :: rest =>
    if c = 'e' || c = 'E' then
      let (negative, rest) :=
        match rest with
        | '+' :: more => (false, more)
        | '-' :: more => (true, more)
        | _ => (false, rest)
      match someDigits rest with
      | .ok (ds, left) =>
        .ok (some (if negative then -(natOfDigits ds : Int) else natOfDigits ds), left)
      | .error flaw => .error flaw
    else .ok (none, c :: rest)
  | [] => .ok (none, [])

def magnitude (negative : Bool) (text : List Char) : Except Flaw (Numeral × List Char) :=
  match wholePart text with
  | .error flaw => .error flaw
  | .ok (whole, rest) =>
    match fractionPart rest with
    | .error flaw => .error flaw
    | .ok (fraction, rest) =>
      match exponentPart rest with
      | .error flaw => .error flaw
      | .ok (exponent, rest) => .ok (⟨negative, whole, fraction, exponent⟩, rest)

def scan : List Char → Except Flaw (Numeral × List Char)
  | '-' :: rest => magnitude true rest
  | text => magnitude false text

/-- The exact integer that is spelled, if it fits. Zero with a minus sign is no integer. -/
def integer? (n : Numeral) : Option Integer :=
  if n.fraction.isEmpty && n.exponent.isNone then
    let value := natOfDigits n.whole
    if n.negative then
      if value = 0 then none else Integer.ofInt? (-value)
    else Integer.ofInt? value
  else none

/-- Appends digits to an integer for as long as it stays below `2 ^ 64`; also what is left. -/
def absorb (n : Nat) : List Nat → Nat × List Nat
  | [] => (n, [])
  | d :: ds => if 10 * n + d < UInt64.size then absorb (10 * n + d) ds else (n, d :: ds)

/-- The binary value; none if it is too large. A digit before the point that is dropped counts as
a power of ten, one behind the point does not count. -/
def real? (n : Numeral) : Option Binary64 :=
  let (significand, dropped) := absorb 0 n.whole
  let (significand, ignored) := absorb significand n.fraction
  let exponent : Int :=
    (dropped.length : Int) - (n.fraction.length - ignored.length : Nat) + n.exponent.getD 0
  ((Binary64.ofQuotient? significand 1).bind (Binary64.scaleByTen? · exponent)).map fun x =>
    if n.negative then x.neg else x

/-- The value of a spelling; none if it is too large. -/
def value? (n : Numeral) : Option Value :=
  match n.integer? with
  | some i => some (.integer i)
  | none => n.real?.map .real

theorem afterDigits_length_le (text : List Char) : (afterDigits text).length ≤ text.length :=
  (List.dropWhile_sublist _).length_le

theorem someDigits_length {text : List Char} {ds : List Nat} {rest : List Char}
    (h : someDigits text = .ok (ds, rest)) : rest.length < text.length := by
  cases text with
  | nil => simp [someDigits] at h
  | cons c tail =>
    simp only [someDigits] at h
    split at h
    · simp only [Except.ok.injEq, Prod.mk.injEq] at h
      have := afterDigits_length_le tail
      simp only [← h.2, List.length_cons]
      omega
    · cases h

theorem wholePart_length {text : List Char} {ds : List Nat} {rest : List Char}
    (h : wholePart text = .ok (ds, rest)) : rest.length < text.length := by
  unfold wholePart at h
  split at h
  · split at h
    · cases h
    · simp only [Except.ok.injEq, Prod.mk.injEq] at h
      simp [h.2]
  · exact someDigits_length h

theorem fractionPart_length {text : List Char} {ds : List Nat} {rest : List Char}
    (h : fractionPart text = .ok (ds, rest)) : rest.length ≤ text.length := by
  unfold fractionPart at h
  split at h
  · have := someDigits_length h
    simp only [List.length_cons]
    omega
  · simp only [Except.ok.injEq, Prod.mk.injEq] at h
    simp [h.2]

theorem exponentPart_length {text : List Char} {e : Option Int} {rest : List Char}
    (h : exponentPart text = .ok (e, rest)) : rest.length ≤ text.length := by
  cases text with
  | nil => simp_all [exponentPart]
  | cons c tail =>
    simp only [exponentPart] at h
    split at h
    · split at h
      · rename_i hdigits
        have hshort := someDigits_length hdigits
        simp only [Except.ok.injEq, Prod.mk.injEq] at h
        have htail : (match tail with
            | '+' :: more => (false, more)
            | '-' :: more => (true, more)
            | _ => (false, tail)).2.length ≤ tail.length := by
          split <;> simp
        simp only [← h.2, List.length_cons]
        omega
      · cases h
    · simp only [Except.ok.injEq, Prod.mk.injEq] at h
      simp [← h.2]

theorem magnitude_length {negative : Bool} {text : List Char} {n : Numeral} {rest : List Char}
    (h : magnitude negative text = .ok (n, rest)) : rest.length < text.length := by
  unfold magnitude at h
  split at h
  · cases h
  · rename_i hwhole
    split at h
    · cases h
    · rename_i hfraction
      split at h
      · cases h
      · rename_i hexponent
        simp only [Except.ok.injEq, Prod.mk.injEq] at h
        have h₁ := wholePart_length hwhole
        have h₂ := fractionPart_length hfraction
        have h₃ := exponentPart_length hexponent
        rw [← h.2]
        omega

/-- A number takes at least one character. -/
theorem scan_length {text : List Char} {n : Numeral} {rest : List Char}
    (h : scan text = .ok (n, rest)) : rest.length < text.length := by
  unfold scan at h
  split at h
  · have := magnitude_length h
    simp only [List.length_cons]
    omega
  · exact magnitude_length h

end Numeral

end ClusterAdvisor.Json
