import ClusterAdvisor.Json.Escape
import ClusterAdvisor.Json.Numeral

/-!
Values without parts at the front of a text: words, numbers and texts. Also the fault of a value
that is not of the kind asked for; a value without parts is read to its end first, so that a fault
in its spelling is the one that counts.
-/

namespace ClusterAdvisor.Json

/-- The four characters that may stand between the parts of a document. -/
def isSpace (c : Char) : Bool := c = ' ' || c = '\n' || c = '\t' || c = '\r'

def skipSpace (text : List Char) : List Char := text.dropWhile isSpace

theorem skipSpace_length_le (text : List Char) : (skipSpace text).length ≤ text.length :=
  (List.dropWhile_sublist _).length_le

def word : (letters : List Char) → List Char → Except Fault (List Char)
  | [], text => .ok text
  | _ :: _, [] => .error (.cut .value)
  | letter :: letters, c :: rest => if c = letter then word letters rest else .error .badWord

theorem word_length_le {letters text rest : List Char} (h : word letters text = .ok rest) :
    rest.length ≤ text.length := by
  fun_induction word letters text with
  | case1 =>
    simp only [Except.ok.injEq] at h
    simp [h]
  | case2 => cases h
  | case3 letters letter rest ih =>
    have := ih h
    simp only [List.length_cons]
    omega
  | case4 => cases h

/-- A constant behind its first letter. -/
def constant (letters : String) (value : Value) (text : List Char) :
    Except Fault (Value × List Char) :=
  match word letters.toList text with
  | .ok rest => .ok (value, rest)
  | .error fault => .error fault

/-- A number. A text that ends where a digit is needed is cut. -/
def number (text : List Char) : Except Fault (Value × List Char) :=
  match Numeral.scan text with
  | .ok (n, rest) =>
    match n.value? with
    | some value => .ok (value, rest)
    | none => .error .numberTooLarge
  | .error .cutOff => .error (.cut .value)
  | .error .malformed => .error .badNumber

def scalar : List Char → Except Fault (Value × List Char)
  | [] => .error (.cut .value)
  | 'n' :: rest => constant "ull" .null rest
  | 't' :: rest => constant "rue" (.bool true) rest
  | 'f' :: rest => constant "alse" (.bool false) rest
  | '"' :: rest =>
    match textBody rest with
    | .ok (s, rest) => .ok (.text s, rest)
    | .error fault => .error fault
  | c :: rest => if c = '-' || c.isDigit then number (c :: rest) else .error .noValue

/-- The fault of a value that is not of the kind asked for; the text starts with the value. -/
def mismatch (expected : Expected) : List Char → Fault
  | '[' :: _ => .wrongKind .sequence expected
  | '{' :: _ => .wrongKind .map expected
  | text =>
    match scalar text with
    | .ok (value, _) => .wrongKind value.found expected
    | .error fault => fault

theorem constant_length {letters : String} {v value : Value} {text rest : List Char}
    (h : constant letters v text = .ok (value, rest)) : rest.length ≤ text.length := by
  unfold constant at h
  split at h
  · rename_i hword
    have := word_length_le hword
    simp only [Except.ok.injEq, Prod.mk.injEq] at h
    rw [← h.2]
    exact this
  · cases h

theorem number_length {value : Value} {text rest : List Char}
    (h : number text = .ok (value, rest)) : rest.length < text.length := by
  unfold number at h
  split at h
  · rename_i hscan
    have := Numeral.scan_length hscan
    split at h
    · simp only [Except.ok.injEq, Prod.mk.injEq] at h
      rw [← h.2]
      exact this
    · cases h
  · cases h
  · cases h

theorem scalar_length {value : Value} {text rest : List Char}
    (h : scalar text = .ok (value, rest)) : rest.length < text.length := by
  unfold scalar at h
  split at h
  · cases h
  · have := constant_length h
    simp only [List.length_cons]
    omega
  · have := constant_length h
    simp only [List.length_cons]
    omega
  · have := constant_length h
    simp only [List.length_cons]
    omega
  · split at h
    · rename_i hbody
      have := textBody_length hbody
      simp only [Except.ok.injEq, Prod.mk.injEq] at h
      simp only [← h.2, List.length_cons]
      omega
    · cases h
  · split at h
    · exact number_length h
    · cases h

end ClusterAdvisor.Json
