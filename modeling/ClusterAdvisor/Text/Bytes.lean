/-!
Parts of a text by offsets in bytes. A part has to start and to end between two characters.
-/

namespace ClusterAdvisor.Text

def byteLength : List Char → Nat
  | [] => 0
  | c :: rest => c.utf8Size + byteLength rest

/-- The text without its first bytes; none if they end inside a character or there are too few. -/
def dropBytes? : (bytes : Nat) → List Char → Option (List Char)
  | 0, text => some text
  | _ + 1, [] => none
  | bytes + 1, c :: rest =>
    if c.utf8Size ≤ bytes + 1 then dropBytes? (bytes + 1 - c.utf8Size) rest else none

/-- The first bytes of a text; none if they end inside a character or there are too few. -/
def takeBytes? : (bytes : Nat) → List Char → Option (List Char)
  | 0, _ => some []
  | _ + 1, [] => none
  | bytes + 1, c :: rest =>
    if c.utf8Size ≤ bytes + 1 then (takeBytes? (bytes + 1 - c.utf8Size) rest).map (c :: ·)
    else none

/-- The part of a text from one offset to another. -/
def slice? (first last : Nat) (text : List Char) : Option (List Char) :=
  (dropBytes? first text).bind (takeBytes? (last - first))

end ClusterAdvisor.Text
