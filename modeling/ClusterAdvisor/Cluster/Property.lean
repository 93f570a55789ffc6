import ClusterAdvisor.Json.Print
import ClusterAdvisor.Json.Schema

/-!
Values of the properties in a configuration site. Most are texts; lists of ports may come as arrays
or as one number, and whatever else is there is kept as it is.
-/

namespace ClusterAdvisor

open Json

inductive PropertyValue where
  | text (value : String)
  | integer (value : Int64)
  | list (items : List Value)
  | other (value : Value)
  deriving Repr, Inhabited

namespace PropertyValue

/-- The integer as a signed one, if it is not too large. -/
def signed? (n : Integer) : Option Int64 :=
  if n.val < 9223372036854775808 then some (Int64.ofInt n.val) else none

/-- Every JSON value is the value of a property. -/
def ofValue : Value → PropertyValue
  | .text s => .text s
  | .integer n =>
    match signed? n with
    | some i => .integer i
    | none => .other (.integer n)
  | .array items => .list items
  | v => .other v

def toValue : PropertyValue → Value
  | .text s => .text s
  | .integer i =>
    .integer ⟨i.toInt, Int64.le_toInt i, Int.lt_trans (Int64.toInt_lt i) (by decide)⟩
  | .list items => .array items
  | .other v => v

def asText? : PropertyValue → Option String
  | .text s => some s
  | _ => none

/-- An item of a list as it is shown: texts without quotes. -/
def showItem : Value → String
  | .text s => s
  | v => v.compact

/-- A value as it is shown: texts as they are, the items of a list with commas between them, and
anything else as JSON. -/
def display : PropertyValue → String
  | .text s => s
  | .integer i => toString i.toInt
  | .list items => ",".intercalate (items.map showItem)
  | .other v => v.compact

def schema : Schema PropertyValue := .any ofValue toValue

end PropertyValue

end ClusterAdvisor
