import ClusterAdvisor.Json.Fault

/-!
Texts in JSON: what stands between the quotes. Reading a text resolves its escapes, and characters
beyond the first plane are escaped as a pair of surrogates; passing over a text checks only that the
escapes are spelled right.
-/

namespace ClusterAdvisor.Json

def hexDigit? (c : Char) : Option Nat :=
  if '0' ≤ c ∧ c ≤ '9' then some (c.toNat - '0'.toNat)
  else if 'a' ≤ c ∧ c ≤ 'f' then some (c.toNat - 'a'.toNat + 10)
  else if 'A' ≤ c ∧ c ≤ 'F' then some (c.toNat - 'A'.toNat + 10)
  else none

def byteCount (text : List Char) : Nat := text.foldl (fun n c => n + c.utf8Size) 0

/-- Four hexadecimal digits. A text that ends within four bytes is cut, whatever it holds. -/
def codeUnit : List Char → Except Fault (Nat × List Char)
  | a :: b :: c :: d :: rest =>
    match hexDigit? a, hexDigit? b, hexDigit? c, hexDigit? d with
    | some a, some b, some c, some d => .ok (((a * 16 + b) * 16 + c) * 16 + d, rest)
    | _, _, _, _ => .error .badEscape
  | short => .error (if byteCount short < 4 then .cut .text else .badEscape)

def isHighSurrogate (unit : Nat) : Bool := 0xD800 ≤ unit && unit ≤ 0xDBFF

def isLowSurrogate (unit : Nat) : Bool := 0xDC00 ≤ unit && unit ≤ 0xDFFF

def joinSurrogates (high low : Nat) : Char :=
  Char.ofNat (0x10000 + (high - 0xD800) * 0x400 + (low - 0xDC00))

def unicodeEscape (text : List Char) : Except Fault (Char × List Char) :=
  match codeUnit text with
  | .error fault => .error fault
  | .ok (unit, rest) =>
    if isLowSurrogate unit then .error .loneSurrogate
    else if isHighSurrogate unit then
      match rest with
      | '\\' :: 'u' :: more =>
        match codeUnit more with
        | .error fault => .error fault
        | .ok (low, rest) =>
          if isLowSurrogate low then .ok (joinSurrogates unit low, rest) else .error .loneSurrogate
      | [] | ['\\'] => .error (.cut .text)
      | _ => .error .openSurrogate
    else .ok (Char.ofNat unit, rest)

def shortEscape? : Char → Option Char
  | '"' => some '"'
  | '\\' => some '\\'
  | '/' => some '/'
  | 'b' => some '\x08'
  | 'f' => some '\x0c'
  | 'n' => some '\n'
  | 'r' => some '\r'
  | 't' => some '\t'
  | _ => none

/-- The character that an escape stands for; the text starts behind the backslash. -/
def escapedChar : List Char → Except Fault (Char × List Char)
  | [] => .error (.cut .text)
  | 'u' :: rest => unicodeEscape rest
  | c :: rest =>
    match shortEscape? c with
    | some c => .ok (c, rest)
    | none => .error .badEscape

def skipEscape : List Char → Except Fault (List Char)
  | [] => .error (.cut .text)
  | 'u' :: rest =>
    match codeUnit rest with
    | .ok (_, rest) => .ok rest
    | .error fault => .error fault
  | c :: rest => if (shortEscape? c).isSome then .ok rest else .error .badEscape

def isControl (c : Char) : Bool := c.toNat < 0x20

theorem codeUnit_length {text rest : List Char} {unit : Nat}
    (h : codeUnit text = .ok (unit, rest)) : rest.length < text.length := by
  unfold codeUnit at h
  split at h
  · split at h
    · simp only [Except.ok.injEq, Prod.mk.injEq] at h
      simp only [h.2, List.length_cons]
      omega
    · cases h
  · cases h

theorem unicodeEscape_length {text rest : List Char} {c : Char}
    (h : unicodeEscape text = .ok (c, rest)) : rest.length < text.length := by
  unfold unicodeEscape at h
  split at h
  · cases h
  · rename_i hunit
    have hfirst := codeUnit_length hunit
    split at h
    · cases h
    · split at h
      · split at h
        · split at h
          · cases h
          · rename_i hlow
            have hsecond := codeUnit_length hlow
            split at h
            · simp only [Except.ok.injEq, Prod.mk.injEq] at h
              simp only [List.length_cons] at hfirst
              rw [← h.2]
              omega
            · cases h
        · cases h
        · cases h
        · cases h
      · simp only [Except.ok.injEq, Prod.mk.injEq] at h
        rw [← h.2]
        exact hfirst

theorem escapedChar_length {text rest : List Char} {c : Char}
    (h : escapedChar text = .ok (c, rest)) : rest.length < text.length := by
  unfold escapedChar at h
  split at h
  · cases h
  · have := unicodeEscape_length h
    simp only [List.length_cons]
    omega
  · split at h
    · simp only [Except.ok.injEq, Prod.mk.injEq] at h
      simp [h.2]
    · cases h

theorem skipEscape_length {text rest : List Char}
    (h : skipEscape text = .ok rest) : rest.length < text.length := by
  unfold skipEscape at h
  split at h
  · cases h
  · split at h
    · rename_i hunit
      have := codeUnit_length hunit
      simp only [Except.ok.injEq] at h
      simp only [← h, List.length_cons]
      omega
    · cases h
  · split at h
    · simp only [Except.ok.injEq] at h
      simp [h]
    · cases h

/-- The text up to the closing quote, put behind what has been read, which is kept backwards. -/
def textAfter (read : List Char) (text : List Char) : Except Fault (String × List Char) :=
  match text with
  | [] => .error (.cut .text)
  | '"' :: rest => .ok (String.ofList read.reverse, rest)
  | '\\' :: rest =>
    match h : escapedChar rest with
    | .ok (c, left) =>
      have : left.length < rest.length := escapedChar_length h
      textAfter (c :: read) left
    | .error fault => .error fault
  | c :: rest => if isControl c then .error .controlInText else textAfter (c :: read) rest
termination_by text.length
decreasing_by
  all_goals simp only [List.length_cons]; omega

/-- The text up to the closing quote, with its escapes resolved. -/
def textBody (text : List Char) : Except Fault (String × List Char) := textAfter [] text

def skipText (text : List Char) : Except Fault (List Char) :=
  match text with
  | [] => .error (.cut .text)
  | '"' :: rest => .ok rest
  | '\\' :: rest =>
    match h : skipEscape rest with
    | .ok left =>
      have : left.length < rest.length := skipEscape_length h
      skipText left
    | .error fault => .error fault
  | c :: rest => if isControl c then .error .controlInText else skipText rest
termination_by text.length
decreasing_by
  all_goals simp only [List.length_cons]; omega

theorem textAfter_length {read text rest : List Char} {s : String}
    (h : textAfter read text = .ok (s, rest)) : rest.length < text.length := by
  fun_induction textAfter read text with
  | case1 => cases h
  | case2 =>
    simp only [Except.ok.injEq, Prod.mk.injEq] at h
    simp [h.2]
  | case3 read left c more hescape hshort ih =>
    have := ih h
    simp only [List.length_cons]
    omega
  | case4 => cases h
  | case5 => cases h
  | case6 read c left hcontrol _ _ ih =>
    have := ih h
    simp only [List.length_cons]
    omega

theorem textBody_length {text rest : List Char} {s : String}
    (h : textBody text = .ok (s, rest)) : rest.length < text.length :=
  textAfter_length h

theorem skipText_length {text rest : List Char}
    (h : skipText text = .ok rest) : rest.length < text.length := by
  fun_induction skipText text with
  | case1 => cases h
  | case2 =>
    simp only [Except.ok.injEq] at h
    simp [h]
  | case3 =>
    rename_i ih
    have := ih h
    simp only [List.length_cons]
    omega
  | case4 => cases h
  | case5 => cases h
  | case6 =>
    rename_i ih
    have := ih h
    simp only [List.length_cons]
    omega

end ClusterAdvisor.Json
