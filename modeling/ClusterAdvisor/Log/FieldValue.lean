import ClusterAdvisor.Log.Pattern

/-!
What a filter may compare the value of a field with: a truth value, a number or a pattern.
-/

namespace ClusterAdvisor.Log.FieldValue

def isDigits (text : List Char) : Bool := !text.isEmpty && text.all Char.isDigit

/-- The names of numbers that are written without digits. -/
def numberWords : List String := ["inf", "infinity", "nan"]

/-- What may stand behind the digits of a number: nothing, or an exponent. -/
def isExponent : List Char → Bool
  | [] => true
  | c :: rest =>
    (c = 'e' || c = 'E') &&
      match rest with
      | '+' :: digits | '-' :: digits => isDigits digits
      | digits => isDigits digits

/-- A number without a sign: digits with at most one point among them or at their ends, and an
exponent. -/
def isNumber (text : List Char) : Bool :=
  let whole := text.takeWhile Char.isDigit
  let rest := text.dropWhile Char.isDigit
  numberWords.contains (String.ofList text).toLower ||
    match rest with
    | '.' :: rest =>
      !(whole ++ rest.takeWhile Char.isDigit).isEmpty && isExponent (rest.dropWhile Char.isDigit)
    | rest => !whole.isEmpty && isExponent rest

/-- Whether a text can be compared with the value of a field: it is a number with a plus sign, or a
pattern, as truth values and all other numbers are. -/
def isComparable (text : List Char) : Bool :=
  match text with
  | '+' :: number => isNumber number
  | text => Pattern.isWellFormed text

end ClusterAdvisor.Log.FieldValue
