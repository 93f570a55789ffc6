import ClusterAdvisor.Decimal.Layout
import ClusterAdvisor.Table

/-!
JSON values. Integers that fit 64 bits, signed or not, are kept apart from all other numbers, which
are binary. The members of an object that was read stand in ascending order of their keys.
-/

namespace ClusterAdvisor.Json

open Decimal

/-- An integer of 64 bits, signed or unsigned: at least `-2 ^ 63` and below `2 ^ 64`. -/
structure Integer where
  val : Int
  lower : -9223372036854775808 ≤ val
  upper : val < 18446744073709551616
  deriving DecidableEq, Repr

def Integer.ofInt? (n : Int) : Option Integer :=
  if h : -9223372036854775808 ≤ n ∧ n < 18446744073709551616 then some ⟨n, h.1, h.2⟩ else none

inductive Value where
  | null
  | bool (value : Bool)
  | integer (value : Integer)
  | real (value : Binary64)
  | text (value : String)
  | array (items : List Value)
  | object (members : List (String × Value))
  deriving Repr, Inhabited

namespace Value

/-- An object with sorted members; of two members with one key the later one stays. -/
def ofMembers (members : List (String × Value)) : Value := .object (sortEntries members)

def ofTexts (texts : List String) : Value := .array (texts.map .text)

/-- An integer; texts of numbers that do not fit are never asked for. -/
def ofNat (n : Nat) : Value :=
  match Integer.ofInt? n with
  | some n => .integer n
  | none => .null

def member? : Value → String → Option Value
  | .object members, key => members.lookup key
  | _, _ => none

end Value

/-- How real numbers are written in JSON and in messages. -/
def realLayout : Layout := ⟨-5, 15, "e+", "e-"⟩

end ClusterAdvisor.Json
