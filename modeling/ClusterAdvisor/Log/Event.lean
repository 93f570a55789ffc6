import ClusterAdvisor.Action
import ClusterAdvisor.Request
import ClusterAdvisor.Text.Terminal

/-!
What a run tells in its log, and how each event is written as a line.
-/

namespace ClusterAdvisor.Log

open Rules

/-- Who tells an event. Filters know the sources by their names; a name that starts with another one
belongs to a part of it. -/
inductive Source where
  /-- Tells how a run begins and ends. -/
  | course
  | program
  /-- Tells of the documents that were loaded. -/
  | documents
  /-- Tells what the rules found. -/
  | rules
  /-- Tells which properties were set. -/
  | cluster
  /-- Tells that a request was answered. -/
  | requests
  deriving DecidableEq, Repr

def Source.name : Source → String
  | .course => "shared::logging"
  | .program => "metron_advisor"
  | .documents => "metron_advisor::services::request_files"
  | .rules => "metron_advisor::advisor"
  | .cluster => "metron_advisor::services::ambari"
  | .requests => "metron_advisor::runner"

inductive Event where
  | started (action : Action)
  | minimumSlots (action : Action) (slots : UInt64)
  | loaded (action : Action) (hosts services : Nat) (path : String)
  | layoutChecked (items : Nat)
  | stormCapacity (capacity : SlotCapacity)
  | stormChecked (items : Nat)
  | assigned (assignment : Assignment)
  | stormAbsent
  | recommended (mysqlHost restAddress : String)
  | answered (action : Action) (hosts : Nat)
  | succeeded (action : Action)
  | failed (action : Action) (failure : Failure)

namespace Event

def level : Event → LogLevel
  | .minimumSlots .. | .loaded .. | .stormCapacity .. | .assigned .. | .stormAbsent => .debug
  | .failed .. => .error
  | _ => .info

def source : Event → Source
  | .started .. | .succeeded .. | .failed .. => .course
  | .minimumSlots .. => .program
  | .loaded .. => .documents
  | .layoutChecked .. | .stormCapacity .. | .stormChecked .. | .stormAbsent | .recommended .. =>
    .rules
  | .assigned .. => .cluster
  | .answered .. => .requests

def fields : Event → List String
  | .assigned .. => ["message", "site", "name", "value"]
  | .failed .. => ["message", "action", "timestamp", "error"]
  | _ => ["message", "action", "timestamp"]

/-- The action that an event belongs to; an assignment belongs to none. -/
def action? : Event → Option Action
  | .started a | .minimumSlots a _ | .loaded a _ _ _ | .answered a _ | .succeeded a
  | .failed a _ => some a
  | .layoutChecked _ => some .validateLayout
  | .stormCapacity _ | .stormChecked _ => some .validateConfigurations
  | .stormAbsent | .recommended .. => some .recommendConfigurations
  | .assigned _ => none

def message : Event → String
  | .started _ => "🚀 Starting Metron service advisor"
  | .minimumSlots _ slots => "Minimum Storm slots: " ++ toString slots.toNat
  | .loaded _ hosts services path =>
    "Loaded " ++ toString hosts ++ " hosts and " ++ toString services ++ " services from " ++ path
  | .layoutChecked items => "Component layout produced " ++ toString items ++ " items"
  | .stormCapacity capacity =>
    "Storm capacity: " ++ toString capacity.slotsPerSupervisor ++ " slots x " ++
      toString capacity.supervisors ++ " supervisors"
  | .stormChecked items => "storm-site validation produced " ++ toString items ++ " items"
  | .assigned _ => "Setting recommended property"
  | .stormAbsent => "No storm-site in the cluster, skipping Storm recommendations"
  | .recommended mysqlHost restAddress =>
    "Recommended mysql_host=" ++ mysqlHost ++ " storm_rest_addr=" ++ restAddress
  | .answered _ hosts => "Completed for " ++ toString hosts ++ " hosts"
  | .succeeded _ => "✅ Advisor run completed"
  | .failed _ failure => "❌ Advisor run failed: " ++ failure.message

def details : Event → String
  | .assigned a =>
    " site=" ++ Text.quoted a.site ++ " name=" ++ Text.quoted a.property ++ " value=" ++
      Text.quoted a.value
  | .failed _ failure => " error=" ++ failure.message
  | _ => ""

def levelName : LogLevel → String
  | .trace => "TRACE"
  | .debug => "DEBUG"
  | .info => "INFO"
  | .warn => "WARN"
  | .error => "ERROR"

/-- The line of an event, without the time. The message holds no commands to a terminal. -/
def line (e : Event) : String :=
  let action :=
    match e.action? with
    | some a => " action=" ++ a.name
    | none => ""
  levelName e.level ++ " " ++ Text.harmless e.message ++ action ++ e.details

end Event

def recommendationEvents (r : Recommendation) : List Event :=
  let assigned := r.assignments.map Event.assigned
  match r.outcome with
  | .ok .withoutStorm => assigned ++ [.stormAbsent]
  | .ok (.complete mysqlHost restAddress) => assigned ++ [.recommended mysqlHost restAddress]
  | .error _ => assigned

def stormSiteEvents (settings : Settings) (site : Site) (p : Placement) : List Event :=
  [.stormCapacity (Rules.stormCapacity site p),
    .stormChecked (checkStormSite settings site p).length]

def actionEvents (settings : Settings) (r : Request) : Action → List Event
  | .validateLayout =>
    match checkPlacement r.placement with
    | .ok items => [.layoutChecked items.length]
    | .error _ => []
  | .validateConfigurations =>
    match siteToCheck? r.services.configurations r.effectiveDefaults with
    | some site => stormSiteEvents settings site r.placement
    | none => []
  | .recommendConfigurations => recommendationEvents (recommendation r.services)

def requestEvents (settings : Settings) (r : Request) (action : Action) : List Event :=
  actionEvents settings r action ++
    match r.answer settings action with
    | .ok _ => [.answered action r.hosts.names.length]
    | .error _ => []

end ClusterAdvisor.Log
