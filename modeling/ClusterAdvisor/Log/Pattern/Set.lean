import ClusterAdvisor.Log.Pattern.Atom

/-!
Sets of characters in brackets, as parts of a pattern. Sets may lie inside sets and may be joined by
operators; of what they hold only the depth counts. Every step of a reader takes at least one
character.
-/

namespace ClusterAdvisor.Log.Pattern

/-- The depth of what parts of some depths make together: one part stands for itself. -/
def together : List Nat → Nat
  | [] => 0
  | [depth] => depth
  | depths => 1 + depths.foldl max 0

structure OpenSet where
  /-- The depth of what stands in front of the last operator. -/
  before : Option Nat
  /-- The depths of the members behind it. -/
  members : List Nat
  /-- Whether nothing but dashes was read: there a dash, and in front of all else a closing bracket,
  stands for itself. -/
  isFresh : Bool
  deriving DecidableEq, Repr

namespace OpenSet

def start : OpenSet := ⟨none, [], true⟩

def depth (s : OpenSet) : Nat := together (s.before.toList ++ [together s.members])

/-- Adds a member behind which a dash may be an operator. -/
def add (depth : Nat) (s : OpenSet) : OpenSet :=
  { s with members := depth :: s.members, isFresh := false }

def operator (s : OpenSet) : OpenSet := ⟨some s.depth, [], false⟩

end OpenSet

/-- Where a reader of brackets is: inside some, the innermost first, or behind a whole set. -/
inductive Brackets where
  | inside (s : OpenSet) (outer : List OpenSet)
  | behind (depth : Nat)

def OpenSet.close (s : OpenSet) : (outer : List OpenSet) → Brackets
  | [] => .behind (1 + s.depth)
  | t :: outer => .inside (t.add (1 + s.depth)) outer

/-- Opens a bracket, and takes the sign of negation. The negation of a set of bytes splits
characters. -/
def openBracket? (m : Mode) (text : List Char) : Option (OpenSet × List Char) :=
  match m.skip text with
  | '^' :: rest => if m.unicode then some (.start, rest) else none
  | _ => some (.start, text)

def asciiClasses : List String :=
  ["alnum", "alpha", "ascii", "blank", "cntrl", "digit", "graph", "lower", "print", "punct",
    "space", "upper", "word", "xdigit"]

def asciiClassEnd? (text : List Char) : Option (List Char) :=
  if asciiClasses.contains (String.ofList (text.takeWhile (· ≠ ':'))) then
    match text.dropWhile (· ≠ ':') with
    | ':' :: ']' :: rest => some rest
    | _ => none
  else none

/-- A class of ASCII characters between colons, from behind its bracket: whether it is negated, and
what follows its closing bracket. -/
def asciiClass? : List Char → Option (Bool × List Char)
  | ':' :: '^' :: text => (asciiClassEnd? text).map (true, ·)
  | ':' :: text => (asciiClassEnd? text).map (false, ·)
  | _ => none

def admitsAsciiClass (m : Mode) (negated : Bool) : Bool :=
  if m.unicode then !m.folds else !negated

/-- The characters that are operators if they stand twice. -/
def operators : List Char := ['&', '-', '~']

/-- The first character that is no blank, where one number sign counts as a blank. -/
def glance : (seenSign : Bool) → List Char → Option Char
  | _, [] => none
  | seenSign, c :: rest =>
    if Text.isBlank c then glance seenSign rest
    else if c = '#' && !seenSign then glance true rest
    else some c

/-- Whether a dash behind a member stands for no range: a bracket closes or a dash follows. -/
def endsRange (m : Mode) (behind : List Char) : Bool :=
  let next := if m.spaced then glance false behind else behind.head?
  next = some ']' || next = some '-'

def setAtom? (m : Mode) : List Char → Option (Atom × List Char)
  | [] => none
  | '\\' :: rest => escape? m rest
  | c :: rest => some (.literal c false, rest)

def member? (m : Mode) (text : List Char) : Option (List Char) :=
  match setAtom? m text with
  | none => none
  | some (first, rest) =>
    match m.skip rest with
    | '-' :: behind =>
      if endsRange m behind then if first.isMember m then some rest else none
      else
        match setAtom? m (m.skip behind) with
        | none => none
        | some (last, rest) => if Atom.isRange m first last then some rest else none
    | _ => if first.isMember m then some rest else none

def bracketStep? (m : Mode) (s : OpenSet) (outer : List OpenSet) (text : List Char) :
    Option (Brackets × List Char) :=
  match m.skip text with
  | [] => none
  | c :: rest =>
    if s.isFresh && (c = '-' || c = ']' && s.members.isEmpty) then
      if (Atom.literal c false).isMember m then
        some (.inside { s.add 0 with isFresh := c = '-' } outer, rest)
      else none
    else if c = ']' then some (s.close outer, rest)
    else if c = '[' then
      match asciiClass? rest with
      | some (negated, rest) =>
        if admitsAsciiClass m negated then some (.inside (s.add 0) outer, rest) else none
      | none =>
        (openBracket? m rest).map fun (inner, rest) =>
          (.inside inner ({ s with isFresh := false } :: outer), rest)
    else if operators.contains c && rest.head? = some c then
      some (.inside s.operator outer, rest.tail)
    else (member? m (c :: rest)).map fun rest => (.inside (s.add 0) outer, rest)

theorem openBracket?_length_le {m : Mode} {text rest : List Char} {s : OpenSet}
    (h : openBracket? m text = some (s, rest)) : rest.length ≤ text.length := by
  unfold openBracket? at h
  split at h
  · rename_i hskip
    have := Mode.length_lt_of_skip hskip
    split at h
    · cases h
      omega
    · cases h
  · cases h
    exact Nat.le_refl _

theorem asciiClassEnd?_length_lt {text rest : List Char} (h : asciiClassEnd? text = some rest) :
    rest.length < text.length := by
  unfold asciiClassEnd? at h
  split at h
  · split at h
    · rename_i hdrop
      cases h
      have hle := (List.dropWhile_suffix (· ≠ ':') (l := text)).length_le
      rw [hdrop] at hle
      simp only [List.length_cons] at hle
      omega
    · cases h
  · cases h

theorem asciiClass?_length_lt {text rest : List Char} {negated : Bool}
    (h : asciiClass? text = some (negated, rest)) : rest.length < text.length := by
  unfold asciiClass? at h
  split at h
  case h_3 => cases h
  all_goals
    simp only [Option.map_eq_some_iff, Prod.mk.injEq] at h
    obtain ⟨left, hend, _, rfl⟩ := h
    have := asciiClassEnd?_length_lt hend
    simp only [List.length_cons]
    omega

theorem setAtom?_length_lt {m : Mode} {text rest : List Char} {a : Atom}
    (h : setAtom? m text = some (a, rest)) : rest.length < text.length := by
  unfold setAtom? at h
  split at h
  · cases h
  · have := escape?_length_lt h
    simp only [List.length_cons]
    omega
  · cases h
    simp

theorem member?_length_lt {m : Mode} {text rest : List Char} (h : member? m text = some rest) :
    rest.length < text.length := by
  unfold member? at h
  split at h
  · cases h
  · rename_i hfirst
    have hlt := setAtom?_length_lt hfirst
    split at h
    · rename_i behind hskip
      have hbehind := Mode.length_lt_of_skip hskip
      split at h
      · split at h
        · cases h
          exact hlt
        · cases h
      · split at h
        · cases h
        · rename_i hlast
          have := setAtom?_length_lt hlast
          have := m.skip_length_le behind
          split at h
          · cases h
            omega
          · cases h
    · split at h
      · cases h
        exact hlt
      · cases h

theorem bracketStep?_length_lt {m : Mode} {s : OpenSet} {outer : List OpenSet}
    {text rest : List Char} {b : Brackets} (h : bracketStep? m s outer text = some (b, rest)) :
    rest.length < text.length := by
  unfold bracketStep? at h
  split at h
  · cases h
  · rename_i c left hskip
    have hlt := Mode.length_lt_of_skip hskip
    have hle := m.skip_length_le text
    rw [hskip] at hle
    split at h
    · split at h
      · cases h
        exact hlt
      · cases h
    · split at h
      · cases h
        exact hlt
      · split at h
        · split at h
          · rename_i hclass
            have := asciiClass?_length_lt hclass
            split at h
            · cases h
              omega
            · cases h
          · simp only [Option.map_eq_some_iff, Prod.mk.injEq] at h
            obtain ⟨⟨inner, after⟩, hopen, _, rfl⟩ := h
            have := openBracket?_length_le hopen
            simp only
            omega
        · split at h
          · cases h
            simp only [List.length_tail]
            omega
          · simp only [Option.map_eq_some_iff, Prod.mk.injEq] at h
            obtain ⟨after, hmember, _, rfl⟩ := h
            have := member?_length_lt hmember
            omega

end ClusterAdvisor.Log.Pattern
