import ClusterAdvisor.Action
import ClusterAdvisor.Cluster.Hosts
import ClusterAdvisor.Rules.Colocation
import ClusterAdvisor.Rules.Recommendation

/-!
Requests and their answers: an action on the documents of a cluster gives items or a configuration.
-/

namespace ClusterAdvisor

open Json Rules

/-- The documents of a cluster. The recommended defaults may be missing. -/
structure Request where
  services : Services
  hosts : Hosts
  defaults : Option Configurations
  /-- Other data about the cluster, which are handed over but which no action reads. -/
  clusterData : Value

inductive Response where
  | items (found : List Item)
  | recommended (configurations : Configurations)

namespace Response

def toValue : Response → Value
  | .items found => .object [("items", .array (found.map Item.toValue))]
  | .recommended c =>
    .object
      [("recommendations", .object [("blueprint", .object [("configurations", c.toValue)])])]

end Response

namespace Request

/-- The defaults that a configuration is compared with: the current one stands in for missing
ones. -/
def effectiveDefaults (r : Request) : Configurations :=
  r.defaults.getD r.services.configurations

/-- Where the components that the layout rules look at run. -/
def placement (r : Request) : Placement := Placement.ofServices r.services layoutComponents

def answer (r : Request) (settings : Settings) : Action → Except Failure Response
  | .validateLayout => (checkPlacement r.placement).map .items
  | .validateConfigurations =>
    .ok (.items
      (checkConfigurations settings r.services.configurations r.effectiveDefaults r.placement))
  | .recommendConfigurations =>
    let (configurations, outcome) := recommend r.services r.services.configurations
    outcome.map fun _ => .recommended configurations

end Request

end ClusterAdvisor
