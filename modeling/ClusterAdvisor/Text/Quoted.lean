import ClusterAdvisor.Text.Visible

/-!
Texts quoted for a reader of messages: between double quotes, with every character that could not
be told apart on a terminal written as an escape.
-/

namespace ClusterAdvisor.Text

def hexDigits (n : Nat) : List Char :=
  Nat.toDigits 16 n

/-- One character inside quotes. Quotes and backslashes are escaped, common controls have a letter
each, and what has no glyph of its own is written as its code point. -/
def quoteChar (c : Char) : List Char :=
  if c = '\x00' then ['\\', '0']
  else if c = '\t' then ['\\', 't']
  else if c = '\r' then ['\\', 'r']
  else if c = '\n' then ['\\', 'n']
  else if c = '"' || c = '\\' then ['\\', c]
  else if isExtending c || !isVisible c then ['\\', 'u', '\x7b'] ++ hexDigits c.toNat ++ ['\x7d']
  else [c]

def quoted (s : String) : String :=
  String.ofList ('"' :: s.toList.flatMap quoteChar ++ ['"'])

end ClusterAdvisor.Text
