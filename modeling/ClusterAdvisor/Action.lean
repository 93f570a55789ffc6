import ClusterAdvisor.Failure
import ClusterAdvisor.Json.Schema
import ClusterAdvisor.Text.Blank
import ClusterAdvisor.Text.LetterCase

/-!
What an advisor can be asked to do.
-/

namespace ClusterAdvisor

open Json

inductive Action where
  /-- Check on which hosts the components run. -/
  | validateLayout
  /-- Check the values of the Storm site. -/
  | validateConfigurations
  /-- Fill in values of the Metron and Storm sites. -/
  | recommendConfigurations
  deriving DecidableEq, Repr

namespace Action

def all : List Action := [.validateLayout, .validateConfigurations, .recommendConfigurations]

def name : Action → String
  | .validateLayout => "validate-component-layout"
  | .validateConfigurations => "validate-configurations"
  | .recommendConfigurations => "recommend-configurations"

/-- Whether the answer is a list of items. -/
def isValidation : Action → Bool
  | .recommendConfigurations => false
  | _ => true

/-- The action with a name, written in any case and with blanks around it. -/
def ofName? (s : String) : Option Action :=
  all.find? (·.name = Text.lowercase (Text.trim s))

/-- The same, with the name that is refused told as it was given. -/
def ofName (s : String) : Except InputFault Action :=
  match ofName? s with
  | some a => .ok a
  | none => .error (.unknownAction s)

def schema : Schema Action := .choice (all.map fun a => (a.name, a)) name

end Action

end ClusterAdvisor
