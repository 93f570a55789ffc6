import ClusterAdvisor.Log.Pattern.Set
import ClusterAdvisor.Text.Alphanumeric

/-!
Patterns that a filter may compare the value of a field with. A filter with a pattern that is not
well formed cannot be understood, and that is all that matters of a pattern here: the fields of
events are never compared. So a reader keeps of the parts of a pattern only how deep they nest and
whether they may be repeated.
-/

namespace ClusterAdvisor.Log.Pattern

structure Part where
  depth : Nat
  /-- Whether it matches something and does not only change the mode. -/
  isRepeatable : Bool
  deriving DecidableEq, Repr

/-- What stands between the parentheses of a group, or outside of all groups. -/
structure Level where
  /-- The depths of the alternatives that are complete. -/
  alternatives : List Nat
  /-- The parts of the alternative that is being read, the last one first. -/
  parts : List Part
  deriving DecidableEq, Repr

namespace Level

def empty : Level := ⟨[], []⟩

def partsDepth (l : Level) : Nat := together (l.parts.map (·.depth))

def depth (l : Level) : Nat := together (l.partsDepth :: l.alternatives)

def add (p : Part) (l : Level) : Level := { l with parts := p :: l.parts }

def alternative (l : Level) : Level := ⟨l.partsDepth :: l.alternatives, []⟩

def repeat? (l : Level) : Option Level :=
  match l.parts with
  | [] => none
  | p :: parts =>
    if p.isRepeatable then some { l with parts := ⟨p.depth + 1, true⟩ :: parts } else none

end Level

structure State where
  mode : Mode
  level : Level
  /-- The levels around it, the innermost first, each with the mode that holds there. -/
  outer : List (Mode × Level)
  /-- The sets whose brackets are open, the innermost first. -/
  sets : List OpenSet
  /-- The names of groups. -/
  names : List (List Char)
  deriving DecidableEq, Repr

def start : State := ⟨.standard, .empty, [], [], []⟩

def flagLetters : List Char := ['i', 'm', 's', 'U', 'u', 'R', 'x']

/-- Whether some letters are flags, each at most once, of which those behind a minus sign are
switched off. -/
def areFlags (letters : List Char) : Bool :=
  letters.all (fun c => (c = '-' || flagLetters.contains c) && letters.count c = 1) &&
    letters.getLast? ≠ some '-'

def Mode.withFlags (m : Mode) (letters : List Char) : Mode :=
  let on := letters.takeWhile (· ≠ '-')
  let flag (letter : Char) (before : Bool) : Bool :=
    if letters.contains letter then on.contains letter else before
  ⟨flag 'u' m.unicode, flag 'i' m.folds, flag 'x' m.spaced⟩

def isName : List Char → Bool
  | [] => false
  | c :: rest =>
    (c = '_' || Text.isLetter c) &&
      rest.all fun c => Text.isAlphanumeric c || ['_', '.', '[', ']'].contains c

namespace State

def take (s : State) (depth : Nat) : State := { s with level := s.level.add ⟨depth, true⟩ }

def takeAtom? (s : State) (a : Atom) : Option State :=
  if a.isComparable s.mode then some (s.take 0) else none

def openGroup (s : State) (m : Mode) : State :=
  { s with mode := m, level := .empty, outer := (s.mode, s.level) :: s.outer }

def closeGroup? (s : State) : Option State :=
  match s.outer with
  | [] => none
  | (mode, level) :: outer =>
    some { s with mode, level := level.add ⟨1 + s.level.depth, true⟩, outer }

/-- Opens a group with a name that no other group has. -/
def openNamed? (s : State) (name : List Char) : Option State :=
  if isName name && !s.names.contains name then
    some { s.openGroup s.mode with names := name :: s.names }
  else none

/-- Takes flags, which hold in a group or from there on; without flags there has to be a group. -/
def takeFlags? (s : State) (letters : List Char) (isGroup : Bool) : Option State :=
  if !areFlags letters then none
  else if isGroup then some (s.openGroup (s.mode.withFlags letters))
  else if letters.isEmpty then none
  else some { s with mode := s.mode.withFlags letters, level := s.level.add ⟨0, false⟩ }

def isInFlags (c : Char) : Bool := c ≠ ':' && c ≠ ')'

def named? (s : State) (text : List Char) : Option (State × List Char) :=
  match text.dropWhile (· ≠ '>') with
  | [] => none
  | _ :: rest => (s.openNamed? (text.takeWhile (· ≠ '>'))).map (·, rest)

def flagged? (s : State) (text : List Char) : Option (State × List Char) :=
  match text.dropWhile isInFlags with
  | [] => none
  | c :: rest => (s.takeFlags? (text.takeWhile isInFlags) (c = ':')).map (·, rest)

def group? (s : State) (text : List Char) : Option (State × List Char) :=
  match s.mode.skip text with
  | '?' :: 'P' :: '<' :: rest => s.named? rest
  | '?' :: '<' :: rest => s.named? rest
  | '?' :: rest => s.flagged? rest
  | _ => some (s.openGroup s.mode, text)

/-- What follows a repetition: a question mark right behind it belongs to it. -/
def behindRepetition : List Char → List Char
  | '?' :: rest => rest
  | text => text

def outsideStep? (s : State) (text : List Char) : Option (State × List Char) :=
  match s.mode.skip text with
  | [] => some (s, [])
  | '(' :: rest => s.group? rest
  | ')' :: rest => s.closeGroup?.map (·, rest)
  | '|' :: rest => some ({ s with level := s.level.alternative }, rest)
  | '[' :: rest =>
    (openBracket? s.mode rest).map fun (inner, rest) => ({ s with sets := [inner] }, rest)
  | '\\' :: rest =>
    match escape? s.mode rest with
    | some (a, rest) => (s.takeAtom? a).map (·, rest)
    | none => none
  | '{' :: _ => none
  | c :: rest =>
    if ['?', '*', '+'].contains c then
      s.level.repeat?.map fun level => ({ s with level }, behindRepetition rest)
    else if c = '.' then (s.takeAtom? .anything).map (·, rest)
    else if c = '^' || c = '$' then (s.takeAtom? .position).map (·, rest)
    else (s.takeAtom? (.literal c false)).map (·, rest)

def afterBracket (s : State) : Brackets → State
  | .inside inner outer => { s with sets := inner :: outer }
  | .behind depth => { s with sets := [] }.take depth

/-- One step; none if the pattern is not well formed. A counted repetition is none of the forms: its
closing brace would end the field. -/
def step? (s : State) (text : List Char) : Option (State × List Char) :=
  match s.sets with
  | [] => s.outsideStep? text
  | inner :: outer =>
    (bracketStep? s.mode inner outer text).map fun (b, rest) => (s.afterBracket b, rest)

/-- How deep the parts of a pattern may nest. -/
def deepest : Nat := 250

def isFinal (s : State) : Bool :=
  s.sets.isEmpty && s.outer.isEmpty && s.level.depth ≤ deepest

theorem named?_length_lt {s t : State} {text rest : List Char}
    (h : s.named? text = some (t, rest)) : rest.length < text.length := by
  have hle := (List.dropWhile_suffix (· ≠ '>') (l := text)).length_le
  unfold named? at h
  split at h
  · cases h
  · rename_i hdrop
    rw [hdrop, List.length_cons] at hle
    simp only [Option.map_eq_some_iff, Prod.mk.injEq] at h
    obtain ⟨_, _, _, rfl⟩ := h
    omega

theorem flagged?_length_lt {s t : State} {text rest : List Char}
    (h : s.flagged? text = some (t, rest)) : rest.length < text.length := by
  have hle := (List.dropWhile_suffix isInFlags (l := text)).length_le
  unfold flagged? at h
  split at h
  · cases h
  · rename_i hdrop
    rw [hdrop, List.length_cons] at hle
    simp only [Option.map_eq_some_iff, Prod.mk.injEq] at h
    obtain ⟨_, _, _, rfl⟩ := h
    omega

theorem group?_length_le {s t : State} {text rest : List Char}
    (h : s.group? text = some (t, rest)) : rest.length ≤ text.length := by
  have hle := s.mode.skip_length_le text
  unfold group? at h
  split at h
  · rename_i hskip
    have := named?_length_lt h
    simp only [hskip, List.length_cons] at hle
    omega
  · rename_i hskip
    have := named?_length_lt h
    simp only [hskip, List.length_cons] at hle
    omega
  · rename_i hskip
    have := flagged?_length_lt h
    simp only [hskip, List.length_cons] at hle
    omega
  · cases h
    exact Nat.le_refl _

theorem behindRepetition_length_le (text : List Char) :
    (behindRepetition text).length ≤ text.length := by
  unfold behindRepetition
  split <;> simp

theorem outsideStep?_length_lt {s t : State} {text rest : List Char} (hne : text ≠ [])
    (h : s.outsideStep? text = some (t, rest)) : rest.length < text.length := by
  have hpos := List.length_pos_iff.mpr hne
  have hlt {c : Char} {left : List Char} (hskip : s.mode.skip text = c :: left) :=
    Mode.length_lt_of_skip hskip
  unfold outsideStep? at h
  split at h
  · cases h
    simpa using hpos
  · rename_i hskip
    have := group?_length_le h
    have := hlt hskip
    omega
  · rename_i hskip
    simp only [Option.map_eq_some_iff, Prod.mk.injEq] at h
    obtain ⟨_, _, _, rfl⟩ := h
    exact hlt hskip
  · rename_i hskip
    cases h
    exact hlt hskip
  · rename_i hskip
    simp only [Option.map_eq_some_iff, Prod.mk.injEq] at h
    obtain ⟨⟨_, _⟩, hopen, _, rfl⟩ := h
    have := openBracket?_length_le hopen
    have := hlt hskip
    simp only
    omega
  · rename_i hskip
    split at h
    · rename_i hescape
      simp only [Option.map_eq_some_iff, Prod.mk.injEq] at h
      obtain ⟨_, _, _, rfl⟩ := h
      have := escape?_length_lt hescape
      have := hlt hskip
      omega
    · cases h
  · cases h
  · rename_i left _ _ _ _ _ _ hskip
    have := hlt hskip
    have := behindRepetition_length_le left
    split at h
    · simp only [Option.map_eq_some_iff, Prod.mk.injEq] at h
      obtain ⟨_, _, _, rfl⟩ := h
      omega
    · split at h
      · simp only [Option.map_eq_some_iff, Prod.mk.injEq] at h
        obtain ⟨_, _, _, rfl⟩ := h
        omega
      · split at h
        all_goals
          simp only [Option.map_eq_some_iff, Prod.mk.injEq] at h
          obtain ⟨_, _, _, rfl⟩ := h
          omega

theorem step?_length_lt {s t : State} {text rest : List Char} (hne : text ≠ [])
    (h : s.step? text = some (t, rest)) : rest.length < text.length := by
  unfold step? at h
  split at h
  · exact outsideStep?_length_lt hne h
  · simp only [Option.map_eq_some_iff, Prod.mk.injEq] at h
    obtain ⟨⟨_, _⟩, hstep, _, rfl⟩ := h
    exact bracketStep?_length_lt hstep

def readAll? (s : State) (text : List Char) : Option State :=
  match text with
  | [] => some s
  | c :: left =>
    match hstep : s.step? (c :: left) with
    | none => none
    | some (t, rest) =>
      have := step?_length_lt (List.cons_ne_nil c left) hstep
      readAll? t rest
termination_by text.length
decreasing_by assumption

end State

def isWellFormed (text : List Char) : Bool := (start.readAll? text).any State.isFinal

end ClusterAdvisor.Log.Pattern
