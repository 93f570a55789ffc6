import ClusterAdvisor.Log.Event
import ClusterAdvisor.Log.FieldValue
import ClusterAdvisor.Text.Bytes
import ClusterAdvisor.Text.Pieces

/-!
Which events are shown. A filter is a list of directives, each a level for all events or for those
of some sources or with some field; the most special directive that fits an event decides.
-/

namespace ClusterAdvisor.Log

/-- The least level that is shown; none shows nothing. -/
abbrev Threshold := Option LogLevel

/-- A threshold for the events of the sources whose names start with a target, and which have a
field. -/
structure Directive where
  target : Option String
  field : Option String
  threshold : Threshold
  deriving DecidableEq, Repr

abbrev Filter := List Directive

/-- The directives for all sources at one level, which is `info` if none is given. -/
def directiveText (level : Option String) : String :=
  let level := level.getD "info"
  "metron_advisor=" ++ level ++ ",shared=" ++ level

inductive FilterFault where
  /-- It cannot be understood. -/
  | unclear
  /-- One of its parts would start or end inside a character; that ends a run. -/
  | splitCharacter
  deriving DecidableEq, Repr

def thresholdWords : List (String × Threshold) :=
  [("off", none), ("error", some .error), ("warn", some .warn), ("info", some .info),
    ("debug", some .debug), ("trace", some .trace)]

def numberedThresholds : List Threshold :=
  [none, some .error, some .warn, some .info, some .debug, some .trace]

/-- A threshold by its number, or by its word in any case. -/
def threshold? (text : List Char) : Option Threshold :=
  match (Settings.readCount? text).bind (numberedThresholds[·.toNat]?) with
  | some threshold => some threshold
  | none => thresholdWords.lookup (String.ofList text).toLower

namespace Directive

def isFirst (c : Char) : Bool :=
  Text.isAlphanumeric c || c = '-' || c = ':' || c = '_'

def part (text : List Char) (first last : Nat) : Except FilterFault (List Char) :=
  (Text.slice? first last text).getDM (throw .splitCharacter)

def lastPart (text : List Char) (first : Nat) : Except FilterFault (List Char) :=
  (Text.dropBytes? first text).getDM (throw .splitCharacter)

/-- The level of a directive that has no other parts, or the target whose events it all shows. -/
def ofWord (text : List Char) : Directive :=
  match threshold? text with
  | some threshold => ⟨none, none, threshold⟩
  | none => ⟨some (String.ofList text), none, some .trace⟩

/-- The level behind an equals sign; without one everything is shown. -/
def level (text : List Char) (first : Nat) : Except FilterFault Threshold := do
  let word ← lastPart text first
  if word.isEmpty then pure (some .trace) else (threshold? word).getDM (throw .unclear)

def levelBehind (text : List Char) (offset : Nat) : List Char → Except FilterFault Threshold
  | [] => pure (some .trace)
  | '=' :: _ => level text (offset + 1)
  | _ => throw .unclear

/-- The name of a field that an event has to have; none if the value of the field counts. -/
def fieldName? (field : List Char) : Except FilterFault (Option String) :=
  if field.isEmpty then throw .unclear
  else
    match Text.pieces '=' field with
    | _ :: value :: _ => if FieldValue.isComparable value then pure none else throw .unclear
    | _ => pure (some (String.ofList field))

/-- The part in brackets, which starts at an offset: the name of a span, or a field in braces, or
both. As no event lies in a span, a directive for a span or for the value of a field in it shows
nothing and is none. -/
def inBrackets (text : List Char) (target : Option String) (offset : Nat) (rest : List Char) :
    Except FilterFault (Option Directive) := do
  let span := rest.takeWhile fun c => c ≠ ']' && c ≠ '{'
  let stop := offset + Text.byteLength span
  match rest.dropWhile fun c => c ≠ ']' && c ≠ '{' with
  | [] => throw .unclear
  | ']' :: rest =>
    let _ ← part text offset stop
    let _ ← levelBehind text (stop + 1) rest
    pure none
  | _ :: rest =>
    let name ← part text offset stop
    let start := stop + 1
    let inside := rest.takeWhile (· ≠ '}')
    let stop := start + Text.byteLength inside
    match rest.dropWhile (· ≠ '}') with
    | [] => throw .unclear
    | _ :: rest =>
      let field ← fieldName? (← part text start stop)
      match rest with
      | ']' :: rest =>
        let threshold ← levelBehind text (stop + 2) rest
        pure (if name.isEmpty then field.map fun field => ⟨target, some field, threshold⟩ else none)
      | _ => throw .unclear

def endsTarget (c : Char) : Bool := c = '=' || c = '['

/-- Reads a directive; none if it says nothing about events outside of spans. Blanks at its ends do
not count when its parts are looked for, but the parts are taken at their offsets in the whole
text. -/
def ofText (text : List Char) : Except FilterFault (Option Directive) := do
  match Text.strip Text.isBlank text with
  | [] => throw .unclear
  | '[' :: rest => inBrackets text none 1 rest
  | c :: rest =>
    if !isFirst c then throw .unclear
    else
      let stop := Text.byteLength ((c :: rest).takeWhile (!endsTarget ·))
      match (c :: rest).dropWhile (!endsTarget ·) with
      | [] => pure (some (ofWord text))
      | '=' :: _ =>
        let target ← part text 0 stop
        pure (some ⟨some (String.ofList target), none, ← level text (stop + 1)⟩)
      | _ :: rest =>
        let target ← part text 0 stop
        inBrackets text (some (String.ofList target)) (stop + 1) rest

end Directive

/-- Directives with commas between them; empty ones do not count. Without any, nothing is shown. -/
def Filter.ofText (text : String) : Except FilterFault Filter := do
  let directives := (Text.pieces ',' text.toList).filter (!·.isEmpty)
  pure ((← directives.mapM Directive.ofText).filterMap id)

namespace Directive

def fits (d : Directive) (e : Event) : Bool :=
  d.target.all (·.toList.isPrefixOf e.source.name.toList) && d.field.all (e.fields.contains ·)

/-- Whether a directive is at least as special as another one that fits the same events: a longer
target counts most, then a field, of two fields the later one by the alphabet. -/
def atLeastAsSpecial (d other : Directive) : Bool :=
  let weight (d : Directive) : Nat := d.target.elim 0 (·.length + 1)
  weight other < weight d ||
    weight other = weight d &&
      match other.field, d.field with
      | none, _ => true
      | some _, none => false
      | some a, some b => !(b < a)

end Directive

def moreSpecial (found : Option Directive) (d : Directive) : Option Directive :=
  match found with
  | some other => if d.atLeastAsSpecial other then some d else some other
  | none => some d

/-- The threshold for an event; an event that no directive fits is not shown. -/
def Filter.threshold (f : Filter) (e : Event) : Threshold :=
  ((f.filter (·.fits e)).foldl moreSpecial none).bind (·.threshold)

def seriousness : LogLevel → Nat
  | .trace => 0
  | .debug => 1
  | .info => 2
  | .warn => 3
  | .error => 4

def Filter.shows (f : Filter) (e : Event) : Bool :=
  match f.threshold e with
  | some least => seriousness least ≤ seriousness e.level
  | none => false

def Filter.ofLevel (level : LogLevel) : Filter :=
  [⟨some "metron_advisor", none, some level⟩, ⟨some "shared", none, some level⟩]

/-- The filter of a run: the one that was asked for, or else one level for all sources. A text that
cannot be understood asks for nothing; there is no filter if the text ends the run. -/
def Filter.ofRequest? (asked : Option String) (level : LogLevel) : Option Filter :=
  match asked with
  | none => some (Filter.ofLevel level)
  | some text =>
    match Filter.ofText text with
    | .ok filter => some filter
    | .error .unclear => some (Filter.ofLevel level)
    | .error .splitCharacter => none

end ClusterAdvisor.Log
