import ClusterAdvisor.Proofs.ServicesDocument

/-!
The values of properties as kinds of JSON values. The kinds are tried in a fixed order, each by the
rules of what it holds, and the last one takes anything; so every JSON value becomes the value of a
property, and the value can be written as it came. The way back is open only to values of the kind
that is tried first: a text that is held as something else is a text again when it is read.
-/

namespace ClusterAdvisor

open Json

namespace PropertyValue

inductive Kind where
  | text
  | integer
  | list
  | other
  deriving DecidableEq, Repr

namespace Kind

/-- The order in which the kinds are tried. -/
def all : List Kind := [.text, .integer, .list, .other]

/-- A whole number that fits 64 bits with a sign. Numbers with a point or an exponent are not whole
ones, whatever their value. -/
def signedOfValue? : Value → Option Int64
  | .integer n => signed? n
  | _ => none

/-- What a kind makes of a JSON value, if it takes it. The items of a list may be anything. -/
def take? (v : Value) : Kind → Option PropertyValue
  | .text => (Schema.text.ofValue v).toOption.map .text
  | .integer => (signedOfValue? v).map .integer
  | .list => ((Schema.list (.any id id)).ofValue v).toOption.map .list
  | .other => some (.other v)

end Kind

/-- What the first kind makes of a value that takes it. -/
def firstTaken? (v : Value) : Option PropertyValue := Kind.all.findSome? (Kind.take? v)

theorem convertAll_id (items : List Value) :
    convertAll (Schema.any id id).ofValue items = .ok items := by
  have hback : convertAll (Schema.any id id).ofValue (items.map id) = .ok items :=
    convertAll_map_ok fun v _ => rfl
  rwa [List.map_id] at hback

/-- Every JSON value is taken. -/
theorem firstTaken?_eq (v : Value) : firstTaken? v = some (ofValue v) := by
  unfold firstTaken? Kind.all
  cases v with
  | integer n =>
    have htext : Kind.take? (.integer n) .text = none := rfl
    have hinteger : Kind.take? (.integer n) .integer = (signed? n).map .integer := rfl
    have hlist : Kind.take? (.integer n) .list = none := rfl
    have hother : Kind.take? (.integer n) .other = some (.other (.integer n)) := rfl
    simp only [List.findSome?_cons, htext, hinteger, hlist, hother, ofValue]
    cases signed? n <;> rfl
  | array items =>
    have htext : Kind.take? (.array items) .text = none := rfl
    have hinteger : Kind.take? (.array items) .integer = none := rfl
    have hlist : Kind.take? (.array items) .list = some (.list items) := by
      rw [Kind.take?, Schema.ofValue, convertAll_id]
      rfl
    simp only [List.findSome?_cons, htext, hinteger, hlist, ofValue]
  | _ => rfl

/-- A value that is held as anything although an earlier kind takes it. -/
def Misplaced : PropertyValue → Prop
  | .other (.text _) => True
  | .other (.array _) => True
  | .other (.integer n) => -9223372036854775808 ≤ n.val ∧ n.val < 9223372036854775808
  | _ => False

theorem signed?_toInt {n : Integer} {i : Int64} (h : n.val = i.toInt) : signed? n = some i := by
  have hupper : i.toInt < 9223372036854775808 := Int64.toInt_lt i
  rw [signed?, h, if_pos hupper, Int64.ofInt_toInt]

/-- Reading gives back what was written unless an earlier kind takes it. -/
theorem ofValue_toValue_iff {p : PropertyValue} : ofValue p.toValue = p ↔ ¬ p.Misplaced := by
  cases p with
  | integer i =>
    have hback : ofValue (integer i).toValue = integer i := by
      rw [toValue, ofValue, signed?_toInt rfl]
    simp [hback, Misplaced]
  | other v =>
    cases v with
    | integer n =>
      have hlower := n.lower
      by_cases hupper : n.val < 9223372036854775808
      · simp [toValue, ofValue, signed?, Misplaced, hlower, hupper]
      · simp [toValue, ofValue, signed?, Misplaced, hupper]
    | _ => simp [toValue, ofValue, Misplaced]
  | _ => simp [toValue, ofValue, Misplaced]

/-- Every JSON value is read as the value of a property, by the first kind that takes it, and is
written as it was; from a text it is read in the same way. What is written of the value of a
property is read as that value unless it is held as anything although an earlier kind takes it, and
only such values are never read. -/
theorem reading_lossless :
    (∀ v : Value, ∃ p, schema.ofValue v = .ok p ∧ firstTaken? v = some p ∧
      schema.toValue p = v) ∧
      (∀ text, schema.ofText text = (Value.ofText text).bind schema.ofValue) ∧
      ∀ p : PropertyValue, (schema.ofValue (schema.toValue p) = .ok p ↔ ¬ p.Misplaced) ∧
        ((∃ v, schema.ofValue v = .ok p) ↔ ¬ p.Misplaced) := by
  have hread (v : Value) : schema.ofValue v = .ok (ofValue v) := rfl
  refine ⟨fun v => ⟨ofValue v, hread v, firstTaken?_eq v, toValue_ofValue v⟩, fun text => ?_,
    fun p => ?_⟩
  · have hmap : schema.ofText text = (Value.ofText text).map ofValue :=
      Reader.document_map ofValue (Reader.value depthLimit) text
    rw [hmap]
    cases Value.ofText text with
    | error fault => rfl
    | ok v => rfl
  · have hback : schema.ofValue (schema.toValue p) = .ok p ↔ ¬ p.Misplaced := by
      rw [hread, Except.ok.injEq]
      exact ofValue_toValue_iff
    refine ⟨hback, ?_, fun h => ⟨_, hback.mpr h⟩⟩
    rintro ⟨v, hv⟩
    rw [hread, Except.ok.injEq] at hv
    subst hv
    apply ofValue_toValue_iff.mp
    rw [toValue_ofValue]

end PropertyValue

end ClusterAdvisor
