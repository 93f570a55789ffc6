import ClusterAdvisor.Json.Value
import ClusterAdvisor.Text.Quoted

/-!
What can be wrong with a JSON document: a text that is no JSON, or a value that is not of the kind
that is asked for. A fault says what is wrong; `Fault.message` says it in words.
-/

namespace ClusterAdvisor.Json

/-- The constructs in which a text can end too soon. -/
inductive Construct where
  | value
  | text
  | list
  | object
  deriving DecidableEq, Repr

/-- What a value is, as far as a message tells. -/
inductive Found where
  | null
  | bool (value : Bool)
  | integer (value : Int)
  | real (value : Decimal.Binary64)
  | text (value : String)
  | sequence
  | map
  deriving DecidableEq, Repr

inductive Expected where
  | text
  | sequence
  | map
  | unit
  | variant
  | record (name : String)
  deriving DecidableEq, Repr

inductive Fault where
  /-- The text ends inside a construct. -/
  | cut (inside : Construct)
  /-- No value starts here. -/
  | noValue
  /-- A word starts like `true`, `false` or `null` and goes on differently. -/
  | badWord
  | badNumber
  | numberTooLarge
  | noItemSeparator
  | noMemberSeparator
  | noColon
  | keyNotText
  | trailingComma
  | trailingText
  | controlInText
  | badEscape
  /-- A low surrogate without a high one before it, or a high one before something else. -/
  | loneSurrogate
  /-- A high surrogate that no escape follows. -/
  | openSurrogate
  | tooDeep
  | wrongKind (found : Found) (expected : Expected)
  | missing (key : String)
  | duplicate (key : String)
  | unknownVariant (name : String) (known : List String)
  /-- A variant given by a number that no variant has. -/
  | variantIndex (index : Int) (count : Nat)
  /-- A record written as an array without one of its required values. -/
  | tooShort (length : Nat) (record : String) (fields : Nat)
  /-- A record written as an array with more values than fields. -/
  | tooLong (length : Nat)
  deriving DecidableEq, Repr

def Value.found : Value → Found
  | .null => .null
  | .bool b => .bool b
  | .integer n => .integer n.val
  | .real x => .real x
  | .text s => .text s
  | .array _ => .sequence
  | .object _ => .map

def Construct.phrase : Construct → String
  | .value => "a value"
  | .text => "a string"
  | .list => "a list"
  | .object => "an object"

def Found.phrase : Found → String
  | .null => "null"
  | .bool b => "boolean `" ++ (if b then "true" else "false") ++ "`"
  | .integer n => "integer `" ++ toString n ++ "`"
  | .real x => "floating point `" ++ realLayout.render x ++ "`"
  | .text s => "string " ++ Text.quoted s
  | .sequence => "sequence"
  | .map => "map"

def Expected.phrase : Expected → String
  | .text => "a string"
  | .sequence => "a sequence"
  | .map => "a map"
  | .unit => "unit"
  | .variant => "variant identifier"
  | .record name => "struct " ++ name

/-- Known names as a message lists them. -/
def knownPhrase (known : List String) : String :=
  let quoted := known.map fun name => "`" ++ name ++ "`"
  match quoted with
  | [first, second] => first ++ " or " ++ second
  | _ => "one of " ++ ", ".intercalate quoted

def Fault.message : Fault → String
  | .cut inside => "EOF while parsing " ++ inside.phrase
  | .noValue => "expected value"
  | .badWord => "expected ident"
  | .badNumber => "invalid number"
  | .numberTooLarge => "number out of range"
  | .noItemSeparator => "expected `,` or `]`"
  | .noMemberSeparator => "expected `,` or `\x7d`"
  | .noColon => "expected `:`"
  | .keyNotText => "key must be a string"
  | .trailingComma => "trailing comma"
  | .trailingText => "trailing characters"
  | .controlInText => "control character (\\u0000-\\u001F) found while parsing a string"
  | .badEscape => "invalid escape"
  | .loneSurrogate => "lone leading surrogate in hex escape"
  | .openSurrogate => "unexpected end of hex escape"
  | .tooDeep => "recursion limit exceeded"
  | .wrongKind found expected =>
    "invalid type: " ++ found.phrase ++ ", expected " ++ expected.phrase
  | .missing key => "missing field `" ++ key ++ "`"
  | .duplicate key => "duplicate field `" ++ key ++ "`"
  | .unknownVariant name known =>
    "unknown variant `" ++ name ++ "`, expected " ++ knownPhrase known
  | .variantIndex index count =>
    "invalid value: integer `" ++ toString index ++ "`, expected variant index 0 <= i < " ++
      toString count
  | .tooShort length record fields =>
    "invalid length " ++ toString length ++ ", expected struct " ++ record ++ " with " ++
      toString fields ++ (if fields = 1 then " element" else " elements")
  | .tooLong length =>
    "invalid length " ++ toString length ++ ", expected fewer elements in array"

end ClusterAdvisor.Json
