import ClusterAdvisor.Advice.Severity
import ClusterAdvisor.Json.Print

/-!
Validation items: a remark about a component on a host, or about a property of a site. In JSON the
target stands beside the remark, told apart by the member `type`; the members may come in any order,
and those that say nothing about the target at hand are passed over.
-/

namespace ClusterAdvisor

open Json

/-- What an item points at. -/
inductive Target where
  | hostComponent (component host : String)
  | configuration (site property : String)
  deriving DecidableEq, Repr

structure Item where
  level : Severity
  message : String
  target : Target
  deriving DecidableEq, Repr

namespace Target

/-- The names of the targets, and of the two members that each of them has. -/
inductive Kind where
  | hostComponent
  | configuration
  deriving DecidableEq, Repr

namespace Kind

def all : List Kind := [.hostComponent, .configuration]

def name : Kind → String
  | .hostComponent => "host-component"
  | .configuration => "configuration"

def keys : Kind → String × String
  | .hostComponent => ("component-name", "host")
  | .configuration => ("config-type", "config-name")

def target : Kind → String → String → Target
  | .hostComponent => .hostComponent
  | .configuration => .configuration

/-- The kind that a value stands for: its name, or its position. -/
def ofValue : Value → Except Fault Kind
  | .text name => findVariant (all.map fun k => (k.name, k)) name
  | .integer n =>
    if n.val < 0 then .error (.wrongKind (.integer n.val) .variant)
    else
      match all[n.val.toNat]? with
      | some kind => .ok kind
      | none => .error (.variantIndex n.val all.length)
  | v => .error (.wrongKind v.found .variant)

end Kind

def kind : Target → Kind
  | .hostComponent .. => .hostComponent
  | .configuration .. => .configuration

def parts : Target → String × String
  | .hostComponent component host => (component, host)
  | .configuration site property => (site, property)

/-- Takes note of a member that is one of two; both have to be texts and occur once. -/
def notePart (keys : String × String) (found : Option String × Option String) (key : String)
    (v : Value) : Except Fault (Option String × Option String) :=
  if key = keys.1 then
    if found.1.isSome then .error (.duplicate key)
    else (Schema.text.ofValue v).map fun s => (some s, found.2)
  else if key = keys.2 then
    if found.2.isSome then .error (.duplicate key)
    else (Schema.text.ofValue v).map fun s => (found.1, some s)
  else .ok found

/-- The target that the members of an object tell, in the order of the document. First its kind has
to be clear, then its members are looked at. -/
def ofMembers (members : List (String × Value)) : Except Fault Target :=
  match (members.filter (·.1 = "type")).map (·.2) with
  | [] => .error (.missing "type")
  | tag :: others =>
    match Kind.ofValue tag with
    | .error fault => .error fault
    | .ok kind =>
      if !others.isEmpty then .error (.duplicate "type")
      else
        match foldMembers (notePart kind.keys) (none, none) members with
        | .error fault => .error fault
        | .ok (none, _) => .error (.missing kind.keys.1)
        | .ok (some _, none) => .error (.missing kind.keys.2)
        | .ok (some first, some second) => .ok (kind.target first second)

/-- The members of a target: its kind, then what it points at. -/
def members (t : Target) : List (String × Value) :=
  [("type", .text t.kind.name), (t.kind.keys.1, .text t.parts.1), (t.kind.keys.2, .text t.parts.2)]

end Target

namespace Item

/-- What has been read of an item; members that belong to the target are kept in order. -/
structure Draft where
  level : Option Severity
  message : Option String
  others : List (String × Value)

/-- How the member with a key is read: level and message once, anything else as it comes. -/
def step (room : Nat) (key : String) (found : Draft) : Except Fault (Reader Draft) :=
  if key = "level" then
    if found.level.isSome then .error (.duplicate key)
    else .ok ((Severity.schema.reader room).map fun level => { found with level := some level })
  else if key = "message" then
    if found.message.isSome then .error (.duplicate key)
    else .ok (Reader.text.map fun message => { found with message := some message })
  else
    .ok ((Reader.value room).map fun v => { found with others := found.others ++ [(key, v)] })

def ofDraft (found : Draft) : Except Fault Item :=
  match found.level, found.message with
  | none, _ => .error (.missing "level")
  | some _, none => .error (.missing "message")
  | some level, some message =>
    (Target.ofMembers found.others).map fun target => ⟨level, message, target⟩

def draftReader : (room : Nat) → Reader Draft
  | 0 => Reader.object none ⟨none, none, []⟩ (.record "ValidationItem")
  | room + 1 => Reader.object (some (step room)) ⟨none, none, []⟩ (.record "ValidationItem")

def ofText (text : String) : Except Fault Item :=
  match (draftReader depthLimit).run text.toList with
  | .error fault => .error fault
  | .ok (found, rest) =>
    match ofDraft found with
    | .error fault => .error fault
    | .ok item => if (skipSpace rest).isEmpty then .ok item else .error .trailingText

/-- Takes note of a member of a value that was read as a whole. -/
def noteMember (found : Draft) (key : String) (v : Value) : Except Fault Draft :=
  if key = "level" then
    if found.level.isSome then .error (.duplicate key)
    else (Severity.schema.ofValue v).map fun level => { found with level := some level }
  else if key = "message" then
    if found.message.isSome then .error (.duplicate key)
    else (Schema.text.ofValue v).map fun message => { found with message := some message }
  else .ok { found with others := found.others ++ [(key, v)] }

def ofValue : Value → Except Fault Item
  | .object members => (foldMembers noteMember ⟨none, none, []⟩ members).bind ofDraft
  | v => .error (.wrongKind v.found (.record "ValidationItem"))

def listOfValue : Value → Except Fault (List Item)
  | .array values => convertAll ofValue values
  | v => .error (.wrongKind v.found .sequence)

/-- The members of an item, in the order in which they are written by themselves. -/
def members (item : Item) : List (String × Value) :=
  ("level", .text item.level.name) :: ("message", .text item.message) :: item.target.members

/-- The item as part of an answer, with sorted members. -/
def toValue (item : Item) : Value := Value.ofMembers item.members

def toText (item : Item) : String := (Value.object item.members).compact

def isError (item : Item) : Bool := item.level = .error

def component? (item : Item) : Option String :=
  match item.target with
  | .hostComponent component _ => some component
  | .configuration .. => none

def property? (item : Item) : Option String :=
  match item.target with
  | .hostComponent .. => none
  | .configuration _ property => some property

def onHost (level : Severity) (message component host : String) : Item :=
  ⟨level, message, .hostComponent component host⟩

def ofFinding (site : String) (finding : Finding) : Item :=
  ⟨finding.remark.level, finding.remark.message, .configuration site finding.property⟩

end Item

end ClusterAdvisor
