import ClusterAdvisor.Json.Schema

/-!
How serious a finding is, findings about a property, and their JSON forms.
-/

namespace ClusterAdvisor

open Json

/-- An error has to be mended, a warning may stay. -/
inductive Severity where
  | error
  | warning
  deriving DecidableEq, Repr

namespace Severity

def name : Severity → String
  | .error => "ERROR"
  | .warning => "WARN"

def all : List Severity := [.error, .warning]

def schema : Schema Severity := .choice (all.map fun s => (s.name, s)) name

end Severity

/-- A remark that is not yet attached to anything. -/
structure Remark where
  level : Severity
  message : String
  deriving DecidableEq, Repr

/-- A remark on a property of a site still to be named. -/
structure Finding where
  property : String
  remark : Remark
  deriving DecidableEq, Repr

def Remark.schema : Schema Remark :=
  .record "AdvisorItem" (.cons "level" Severity.schema none (.cons "message" .text none .nil))
    (fun (level, message, ()) => ⟨level, message⟩) (fun r => (r.level, r.message, ()))

def Finding.schema : Schema Finding :=
  .record "PropertyFinding"
    (.cons "config-name" .text none (.cons "item" Remark.schema none .nil))
    (fun (property, remark, ()) => ⟨property, remark⟩) (fun f => (f.property, f.remark, ()))

end ClusterAdvisor
