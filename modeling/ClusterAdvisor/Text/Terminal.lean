import ClusterAdvisor.Text.Quoted

/-!
Texts that are safe on a terminal: the characters that a terminal would take as commands are written
as escapes.
-/

namespace ClusterAdvisor.Text

/-- The controls of ASCII that a terminal obeys: bell, backspace, form feed, escape and delete. Tabs
and ends of lines only lay out a text. -/
def commandCharacters : List Char := ['\x07', '\x08', '\x0c', '\x1b', '\x7f']

def hexPair (n : Nat) : List Char :=
  if n < 16 then '0' :: hexDigits n else hexDigits n

/-- One character for a terminal; the controls past ASCII are commands too. -/
def harmlessChar (c : Char) : List Char :=
  if c ∈ commandCharacters then '\\' :: 'x' :: hexPair c.toNat
  else if 0x80 ≤ c.toNat && c.toNat ≤ 0x9F then
    ['\\', 'u', '\x7b'] ++ hexDigits c.toNat ++ ['\x7d']
  else [c]

def harmless (s : String) : String :=
  String.ofList (s.toList.flatMap harmlessChar)

end ClusterAdvisor.Text
