import ClusterAdvisor.Json.Fault

/-!
Why a request cannot be answered. Findings are no failures: a failure means that there is nothing to
report at all. Some failures have a cause of their own, which is told separately.
-/

namespace ClusterAdvisor

open Json

/-- The documents of a request that have to be of a fixed form. -/
inductive Document where
  | hosts
  | services
  deriving DecidableEq, Repr

def Document.phrase : Document → String
  | .hosts => "hosts document"
  | .services => "services document"

inductive InputFault where
  | serialization (message : String)
  | deserialization (message : String)
  | invalidSetting (field value : String)
  | unknownAction (input : String)
  deriving DecidableEq, Repr

def InputFault.ofDocument (document : Document) (fault : Fault) : InputFault :=
  .deserialization (document.phrase ++ ": " ++ fault.message)

def InputFault.message : InputFault → String
  | .serialization message => "Serialization failed: " ++ message
  | .deserialization message => "Deserialization failed: " ++ message
  | .invalidSetting field value => "Invalid configuration: " ++ field ++ " = " ++ value
  | .unknownAction input => "Unknown advisor action: " ++ input

inductive Failure where
  /-- A component that has to run somewhere has no hosts. -/
  | missingComponent (component : String)
  | missingProperty (site property : String)
  | setting (complaint : String)
  | file (operation path : String)
  /-- Standard output cannot be written. -/
  | output (complaint : String)
  | json (fault : Fault)
  | input (fault : InputFault)
  deriving DecidableEq, Repr

namespace Failure

def message : Failure → String
  | .missingComponent component => "Component " ++ component ++ " has no hosts assigned"
  | .missingProperty site property => "Property " ++ property ++ " is missing from " ++ site
  | .setting complaint => "Configuration error: " ++ complaint
  | .file operation path => "File system operation failed: " ++ operation ++ " on " ++ path
  | .output complaint => "I/O error: " ++ complaint
  | .json fault => "JSON serialization error: " ++ fault.message
  | .input _ => "Shared component error"

/-- The cause behind a failure, if it is told separately. -/
def cause? : Failure → Option String
  | .output complaint => some complaint
  | .json fault => some fault.message
  | .input fault => some fault.message
  | _ => none

end Failure

end ClusterAdvisor
