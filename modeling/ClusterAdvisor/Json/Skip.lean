import ClusterAdvisor.Json.Reader

/-!
Passing over a value that nobody asks for. Its spelling is checked, but numbers may be too large,
surrogates may stand alone, and brackets may be nested without limit: the brackets that are open are
kept in a list.
-/

namespace ClusterAdvisor.Json

inductive Bracket where
  | list
  | object
  deriving DecidableEq, Repr

namespace Bracket

def closing : Bracket → Char
  | .list => ']'
  | .object => '}'

def construct : Bracket → Construct
  | .list => .list
  | .object => .object

def noSeparator : Bracket → Fault
  | .list => .noItemSeparator
  | .object => .noMemberSeparator

end Bracket

def skipScalar : List Char → Except Fault (List Char)
  | [] => .error (.cut .value)
  | 'n' :: rest => word "ull".toList rest
  | 't' :: rest => word "rue".toList rest
  | 'f' :: rest => word "alse".toList rest
  | '"' :: rest => skipText rest
  | c :: rest =>
    if c = '-' || c.isDigit then
      match Numeral.scan (c :: rest) with
      | .ok (_, rest) => .ok rest
      | .error _ => .error .badNumber
    else .error .noValue

/-- Passes over what stands in front of a value inside a bracket: a key and its colon in an object,
nothing in an array. -/
def skipKey : Bracket → List Char → Except Fault (List Char)
  | .list, text => .ok text
  | .object, text =>
    match skipSpace text with
    | [] => .error (.cut .object)
    | '"' :: rest =>
      match skipText rest with
      | .ok rest => colon rest
      | .error fault => .error fault
    | _ => .error .keyNotText

theorem skipScalar_length {text rest : List Char} (h : skipScalar text = .ok rest) :
    rest.length < text.length := by
  unfold skipScalar at h
  split at h
  · cases h
  · have := word_length_le h
    simp only [List.length_cons]
    omega
  · have := word_length_le h
    simp only [List.length_cons]
    omega
  · have := word_length_le h
    simp only [List.length_cons]
    omega
  · have := skipText_length h
    simp only [List.length_cons]
    omega
  · split at h
    · split at h
      · rename_i hscan
        cases h
        exact Numeral.scan_length hscan
      · cases h
    · cases h

theorem skipKey_length_le {bracket : Bracket} {text rest : List Char}
    (h : skipKey bracket text = .ok rest) : rest.length ≤ text.length := by
  unfold skipKey at h
  split at h
  · cases h
    exact Nat.le_refl _
  · split at h
    · cases h
    · rename_i hspace
      have := length_lt_of_skipSpace hspace
      split at h
      · rename_i hkey
        have := skipText_length hkey
        have := colon_length h
        omega
      · cases h
    · cases h

def Bracket.opening? : Char → Option Bracket
  | '[' => some .list
  | '{' => some .object
  | _ => none

/-- Passes over the rest of a value with open brackets; `needed` tells whether the text is at the
start of a value or behind one. -/
def skipFrom (opened : List Bracket) (needed : Bool) (text : List Char) :
    Except Fault (List Char) :=
  if needed then
    match hspace : skipSpace text with
    | [] => .error (.cut .value)
    | c :: rest =>
      have : rest.length < text.length := length_lt_of_skipSpace hspace
      match Bracket.opening? c with
      | some bracket =>
        match hinside : skipSpace rest with
        | [] => .error (.cut bracket.construct)
        | d :: more =>
          have : more.length < rest.length := length_lt_of_skipSpace hinside
          if d = bracket.closing then skipFrom opened false more
          else
            match hkey : skipKey bracket (d :: more) with
            | .error fault => .error fault
            | .ok start =>
              have : start.length ≤ rest.length :=
                Nat.le_trans (skipKey_length_le hkey) this
              skipFrom (bracket :: opened) true start
      | none =>
        match hscalar : skipScalar (c :: rest) with
        | .error fault => .error fault
        | .ok left =>
          have : left.length < text.length :=
            Nat.lt_of_lt_of_le (skipScalar_length hscalar) (hspace ▸ skipSpace_length_le text)
          skipFrom opened false left
  else
    match opened with
    | [] => .ok text
    | bracket :: outer =>
      match hspace : skipSpace text with
      | [] => .error (.cut bracket.construct)
      | c :: rest =>
        have : rest.length < text.length := length_lt_of_skipSpace hspace
        if c = ',' then
          match hkey : skipKey bracket rest with
          | .error fault => .error fault
          | .ok start =>
            have : start.length < text.length :=
              Nat.lt_of_le_of_lt (skipKey_length_le hkey) this
            skipFrom (bracket :: outer) true start
        else if c = bracket.closing then skipFrom outer false rest
        else .error bracket.noSeparator
termination_by text.length

theorem skipFrom_length {opened : List Bracket} {needed : Bool} {text rest : List Char}
    (h : skipFrom opened needed text = .ok rest) :
    if needed then rest.length < text.length else rest.length ≤ text.length := by
  fun_induction skipFrom opened needed text <;> simp_all
  all_goals omega

def Reader.skip : Reader Unit where
  run text :=
    match skipFrom [] true text with
    | .ok rest => .ok ((), rest)
    | .error fault => .error fault
  shortens := by
    intro text a rest h
    split at h
    · rename_i hskip
      simp only [Except.ok.injEq, Prod.mk.injEq] at h
      simpa [← h.2] using skipFrom_length hskip
    · cases h

end ClusterAdvisor.Json
