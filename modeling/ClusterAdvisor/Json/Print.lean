import ClusterAdvisor.Json.Value
import ClusterAdvisor.Text.Quoted

/-!
JSON values as text, in two layouts: compact, without any spaces, and pretty, with one item or
member on each line.
-/

namespace ClusterAdvisor.Json

/-- A character inside the quotes of a text. Only quotes, backslashes and controls are escaped. -/
def escapeChar (c : Char) : List Char :=
  if c = '"' then ['\\', '"']
  else if c = '\\' then ['\\', '\\']
  else if c = '\n' then ['\\', 'n']
  else if c = '\r' then ['\\', 'r']
  else if c = '\t' then ['\\', 't']
  else if c = '\x08' then ['\\', 'b']
  else if c = '\x0c' then ['\\', 'f']
  else if c.toNat < 0x10 then ['\\', 'u', '0', '0', '0'] ++ Text.hexDigits c.toNat
  else if c.toNat < 0x20 then ['\\', 'u', '0', '0'] ++ Text.hexDigits c.toNat
  else [c]

def textChars (s : String) : List Char :=
  '"' :: s.toList.flatMap escapeChar ++ ['"']

def scalarChars : Value → List Char
  | .null => "null".toList
  | .bool b => if b then "true".toList else "false".toList
  | .integer n => (toString n.val).toList
  | .real x => (realLayout.render x).toList
  | .text s => textChars s
  | .array _ | .object _ => []

mutual

def compactChars : Value → List Char
  | .array items => '[' :: compactItems items ++ [']']
  | .object members => '{' :: compactMembers members ++ ['}']
  | v => scalarChars v

def compactItems : List Value → List Char
  | [] => []
  | v :: rest => compactChars v ++ if rest.isEmpty then [] else ',' :: compactItems rest

def compactMembers : List (String × Value) → List Char
  | [] => []
  | (key, v) :: rest =>
    textChars key ++ ':' :: compactChars v ++
      if rest.isEmpty then [] else ',' :: compactMembers rest

end

/-- A new line, indented by two spaces for each level. -/
def lineBreak (level : Nat) : List Char := '\n' :: List.replicate (2 * level) ' '

mutual

/-- A value on several lines. Empty arrays and objects stay on one. -/
def prettyChars (level : Nat) : Value → List Char
  | .array items =>
    if items.isEmpty then ['[', ']']
    else '[' :: prettyItems (level + 1) items ++ lineBreak level ++ [']']
  | .object members =>
    if members.isEmpty then ['{', '}']
    else '{' :: prettyMembers (level + 1) members ++ lineBreak level ++ ['}']
  | v => scalarChars v

def prettyItems (level : Nat) : List Value → List Char
  | [] => []
  | v :: rest =>
    lineBreak level ++ prettyChars level v ++
      if rest.isEmpty then [] else ',' :: prettyItems level rest

def prettyMembers (level : Nat) : List (String × Value) → List Char
  | [] => []
  | (key, v) :: rest =>
    lineBreak level ++ textChars key ++ ':' :: ' ' :: prettyChars level v ++
      if rest.isEmpty then [] else ',' :: prettyMembers level rest

end

def Value.compact (v : Value) : String := String.ofList (compactChars v)

def Value.pretty (v : Value) : String := String.ofList (prettyChars 0 v)

end ClusterAdvisor.Json
