import ClusterAdvisor.Json.Scalar

/-!
Readers take a value off the front of a text. Every reader takes at least one character, and that is
what ends the loops over the items of an array and over the members of an object.
-/

namespace ClusterAdvisor.Json

/-- Reads a value and tells what is left of the text, or finds a fault. -/
structure Reader (α : Type) where
  run : List Char → Except Fault (α × List Char)
  shortens {text : List Char} {a : α} {rest : List Char} :
    run text = .ok (a, rest) → rest.length < text.length

/-- The end of a list of parts, or the text at its next part. -/
inductive Next where
  | done (rest : List Char)
  | more (rest : List Char)

def nextItem (first : Bool) (text : List Char) : Except Fault Next :=
  match skipSpace text with
  | [] => .error (.cut .list)
  | ']' :: rest => .ok (.done rest)
  | ',' :: rest =>
    if first then .ok (.more (',' :: rest))
    else
      match skipSpace rest with
      | [] => .error (.cut .value)
      | ']' :: _ => .error .trailingComma
      | c :: rest => .ok (.more (c :: rest))
  | c :: rest => if first then .ok (.more (c :: rest)) else .error .noItemSeparator

/-- Looks for the next key of an object, behind its brace or behind a member. The text of the key
starts behind its quote. -/
def nextKey (first : Bool) (text : List Char) : Except Fault Next :=
  match skipSpace text with
  | [] => .error (.cut .object)
  | '}' :: rest => .ok (.done rest)
  | '"' :: rest => if first then .ok (.more rest) else .error .noMemberSeparator
  | ',' :: rest =>
    if first then .error .keyNotText
    else
      match skipSpace rest with
      | [] => .error (.cut .value)
      | '"' :: rest => .ok (.more rest)
      | '}' :: _ => .error .trailingComma
      | _ => .error .keyNotText
  | _ => .error (if first then .keyNotText else .noMemberSeparator)

def colon (text : List Char) : Except Fault (List Char) :=
  match skipSpace text with
  | [] => .error (.cut .object)
  | ':' :: rest => .ok rest
  | _ => .error .noColon

theorem length_lt_of_skipSpace {text rest : List Char} {c : Char}
    (h : skipSpace text = c :: rest) : rest.length < text.length := by
  have := skipSpace_length_le text
  rw [h, List.length_cons] at this
  omega

theorem nextItem_done_length {first : Bool} {text rest : List Char}
    (h : nextItem first text = .ok (.done rest)) : rest.length < text.length := by
  unfold nextItem at h
  split at h
  · cases h
  · rename_i hspace
    cases h
    exact length_lt_of_skipSpace hspace
  · split at h
    · cases h
    · split at h <;> cases h
  · split at h <;> cases h

theorem nextItem_more_length {first : Bool} {text rest : List Char}
    (h : nextItem first text = .ok (.more rest)) : rest.length ≤ text.length := by
  unfold nextItem at h
  split at h
  · cases h
  · cases h
  · rename_i hspace
    have hshort := length_lt_of_skipSpace hspace
    split at h
    · cases h
      simp only [List.length_cons]
      omega
    · split at h
      · cases h
      · cases h
      · rename_i more hmore
        have := length_lt_of_skipSpace hmore
        cases h
        simp only [List.length_cons]
        omega
  · rename_i hspace
    have hshort := length_lt_of_skipSpace hspace
    split at h
    · cases h
      simp only [List.length_cons]
      omega
    · cases h

theorem nextKey_done_length {first : Bool} {text rest : List Char}
    (h : nextKey first text = .ok (.done rest)) : rest.length < text.length := by
  unfold nextKey at h
  split at h
  · cases h
  · rename_i hspace
    cases h
    exact length_lt_of_skipSpace hspace
  · split at h <;> cases h
  · split at h
    · cases h
    · split at h <;> cases h
  · cases h

theorem nextKey_more_length {first : Bool} {text rest : List Char}
    (h : nextKey first text = .ok (.more rest)) : rest.length < text.length := by
  unfold nextKey at h
  split at h
  · cases h
  · cases h
  · rename_i hspace
    split at h
    · cases h
      exact length_lt_of_skipSpace hspace
    · cases h
  · rename_i hspace
    have hshort := length_lt_of_skipSpace hspace
    split at h
    · cases h
    · split at h
      · cases h
      · rename_i hmore
        have := length_lt_of_skipSpace hmore
        cases h
        omega
      · cases h
      · cases h
  · cases h

theorem colon_length {text rest : List Char} (h : colon text = .ok rest) :
    rest.length < text.length := by
  unfold colon at h
  split at h
  · cases h
  · rename_i hspace
    cases h
    exact length_lt_of_skipSpace hspace
  · cases h

namespace Reader

variable {α β σ : Type}

def map (f : α → β) (reader : Reader α) : Reader β where
  run text :=
    match reader.run text with
    | .ok (a, rest) => .ok (f a, rest)
    | .error fault => .error fault
  shortens := by
    intro text b rest h
    split at h
    · rename_i hrun
      simp only [Except.ok.injEq, Prod.mk.injEq] at h
      rw [← h.2]
      exact reader.shortens hrun
    · cases h

/-- Reads behind the spaces in front of a value; there has to be a value. -/
def spaced (f : List Char → Except Fault (α × List Char))
    (hf : ∀ {text a rest}, f text = .ok (a, rest) → rest.length < text.length) : Reader α where
  run text :=
    match skipSpace text with
    | [] => .error (.cut .value)
    | c :: rest => f (c :: rest)
  shortens := by
    intro text a rest h
    split at h
    · cases h
    · rename_i hspace
      have hle := skipSpace_length_le text
      rw [hspace] at hle
      exact Nat.lt_of_lt_of_le (hf h) hle

def items (item : Reader α) (first : Bool) (text : List Char) : Except Fault (List α × List Char) :=
  match h : nextItem first text with
  | .error fault => .error fault
  | .ok (.done rest) => .ok ([], rest)
  | .ok (.more start) =>
    match hitem : item.run start with
    | .error fault => .error fault
    | .ok (a, rest) =>
      have : rest.length < text.length :=
        Nat.lt_of_lt_of_le (item.shortens hitem) (nextItem_more_length h)
      match items item false rest with
      | .error fault => .error fault
      | .ok (as, rest) => .ok (a :: as, rest)
termination_by text.length

/-- The members of an object up to its closing brace. Each key decides, with what has been read so
far, how its value is read and what is read then; or it is refused, before its colon. -/
def members (step : String → σ → Except Fault (Reader σ)) (first : Bool) (state : σ)
    (text : List Char) : Except Fault (σ × List Char) :=
  match h : nextKey first text with
  | .error fault => .error fault
  | .ok (.done rest) => .ok (state, rest)
  | .ok (.more start) =>
    match hkey : textBody start with
    | .error fault => .error fault
    | .ok (key, rest) =>
      match step key state with
      | .error fault => .error fault
      | .ok reader =>
        match hcolon : colon rest with
        | .error fault => .error fault
        | .ok rest =>
          match hvalue : reader.run rest with
          | .error fault => .error fault
          | .ok (state, rest) =>
            have : rest.length < text.length := by
              have := nextKey_more_length h
              have := textBody_length hkey
              have := colon_length hcolon
              have := reader.shortens hvalue
              omega
            members step false state rest
termination_by text.length

theorem items_length {item : Reader α} {first : Bool} {text rest : List Char} {as : List α}
    (h : items item first text = .ok (as, rest)) : rest.length < text.length := by
  fun_induction items item first text generalizing as with
  | case1 => cases h
  | case2 first text left hnext =>
    simp only [Except.ok.injEq, Prod.mk.injEq] at h
    rw [← h.2]
    exact nextItem_done_length hnext
  | case3 => cases h
  | case4 => cases h
  | case5 first text start hnext a left hitem hshort more final hmore ih =>
    simp only [Except.ok.injEq, Prod.mk.injEq] at h
    have := ih (h.2 ▸ hmore)
    omega

theorem members_length {step : String → σ → Except Fault (Reader σ)} {first : Bool}
    {state final : σ} {text rest : List Char}
    (h : members step first state text = .ok (final, rest)) : rest.length < text.length := by
  fun_induction members step first state text with
  | case1 => cases h
  | case2 first state text left hnext =>
    simp only [Except.ok.injEq, Prod.mk.injEq] at h
    rw [← h.2]
    exact nextKey_done_length hnext
  | case3 => cases h
  | case4 => cases h
  | case5 => cases h
  | case6 => cases h
  | case7 =>
    rename_i ih
    have := ih h
    omega

/-- A list of values of one kind. Inside brackets there is no room if `inner` is none. -/
def list (inner : Option (Reader α)) : Reader (List α) :=
  spaced
    (fun
      | '[' :: rest =>
        match inner with
        | none => .error .tooDeep
        | some item => items item true rest
      | text => .error (mismatch .sequence text))
    (by
      intro text a rest h
      split at h
      · split at h
        · cases h
        · have := items_length h
          simp only [List.length_cons]
          omega
      · cases h)

/-- The members of an object, put together in a state; none stands for no room inside braces. -/
def object (step : Option (String → σ → Except Fault (Reader σ))) (start : σ)
    (expected : Expected) : Reader σ :=
  spaced
    (fun
      | '{' :: rest =>
        match step with
        | none => .error .tooDeep
        | some step => members step true start rest
      | text => .error (mismatch expected text))
    (by
      intro text a rest h
      split at h
      · split at h
        · cases h
        · have := members_length h
          simp only [List.length_cons]
          omega
      · cases h)

def text : Reader String :=
  spaced
    (fun
      | '"' :: rest => textBody rest
      | text => .error (mismatch .text text))
    (by
      intro text a rest h
      split at h
      · have := textBody_length h
        simp only [List.length_cons]
        omega
      · cases h)

/-- A value of any kind; none stands for no room inside brackets and braces. -/
def valueIn (inner : Option (Reader Value)) : Reader Value :=
  spaced
    (fun
      | '[' :: rest =>
        match inner with
        | none => .error .tooDeep
        | some item =>
          match items item true rest with
          | .ok (values, rest) => .ok (.array values, rest)
          | .error fault => .error fault
      | '{' :: rest =>
        match inner with
        | none => .error .tooDeep
        | some item =>
          match members (fun key found => .ok (item.map (putEntry key · found))) true [] rest with
          | .ok (entries, rest) => .ok (.object entries, rest)
          | .error fault => .error fault
      | text => scalar text)
    (by
      intro text a rest h
      split at h
      · split at h
        · cases h
        · split at h
          · rename_i hitems
            have := items_length hitems
            simp only [Except.ok.injEq, Prod.mk.injEq] at h
            simp only [← h.2, List.length_cons]
            omega
          · cases h
      · split at h
        · cases h
        · split at h
          · rename_i hmembers
            have := members_length hmembers
            simp only [Except.ok.injEq, Prod.mk.injEq] at h
            simp only [← h.2, List.length_cons]
            omega
          · cases h
      · exact scalar_length h)

/-- A value of any kind, with as many levels of brackets and braces as there is room for. Of two
members with one key the later one stays. -/
def value : (room : Nat) → Reader Value
  | 0 => valueIn none
  | room + 1 => valueIn (some (value room))

end Reader

/-- How many arrays and objects may be open at once. -/
def depthLimit : Nat := 127

/-- Reads a whole document: nothing but spaces may follow the value. -/
def Reader.document {α : Type} (reader : Reader α) (text : String) : Except Fault α :=
  match reader.run text.toList with
  | .error fault => .error fault
  | .ok (a, rest) => if (skipSpace rest).isEmpty then .ok a else .error .trailingText

def Value.ofText (text : String) : Except Fault Value := (Reader.value depthLimit).document text

end ClusterAdvisor.Json
