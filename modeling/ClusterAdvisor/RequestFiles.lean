import ClusterAdvisor.Request

/-!
The documents of a request as files. They are read and understood one after the other, and the first
fault counts.
-/

namespace ClusterAdvisor

open Json

/-- The contents of files, by path; none for a file that cannot be read. -/
abbrev Files := String → Option ByteArray

structure RequestFiles where
  hosts : String
  services : String
  recommendations : Option String
  deriving DecidableEq, Repr

/-- The text of a file; it has to be there and to be UTF-8. -/
def readText (files : Files) (path : String) : Except Failure String :=
  match (files path).bind String.fromUTF8? with
  | some text => .ok text
  | none => .error (.file "read" path)

def parseDocument {α : Type} (document : Document) (schema : Schema α) (text : String) :
    Except InputFault α :=
  match schema.ofText text with
  | .ok a => .ok a
  | .error fault => .error (.ofDocument document fault)

def Hosts.ofText (text : String) : Except InputFault Hosts :=
  parseDocument .hosts Hosts.schema text

def Services.ofText (text : String) : Except InputFault Services :=
  parseDocument .services Services.schema text

/-- Where an answer to a recommendation holds the configuration. -/
def nestedConfigurations? (document : Value) : Option Value := do
  let recommendations ← document.member? "recommendations"
  let blueprint ← recommendations.member? "blueprint"
  blueprint.member? "configurations"

/-- Recommended defaults: a configuration, or the answer to a recommendation. -/
def recommendedDefaults (text : String) : Except Fault Configurations :=
  match Value.ofText text with
  | .error fault => .error fault
  | .ok document =>
    Configurations.schema.ofValue ((nestedConfigurations? document).getD document)

namespace RequestFiles

/-- The request that the files hold. There is no file of other data about the cluster. -/
def load (paths : RequestFiles) (files : Files) : Except Failure Request := do
  let hosts ← (Hosts.ofText (← readText files paths.hosts)).mapError .input
  let services ← (Services.ofText (← readText files paths.services)).mapError .input
  match paths.recommendations with
  | none => pure ⟨services, hosts, none, .null⟩
  | some path =>
    let defaults ← (recommendedDefaults (← readText files path)).mapError .json
    pure ⟨services, hosts, some defaults, .null⟩

end RequestFiles

end ClusterAdvisor
