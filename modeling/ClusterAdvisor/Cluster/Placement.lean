import ClusterAdvisor.Cluster.Services

/-!
Where components run: for each component its hosts, in order.
-/

namespace ClusterAdvisor

open Json

/-- The hosts of components, by the name of the component. -/
structure Placement where
  components : Table (List String)
  deriving DecidableEq

namespace Placement

instance : Inhabited Placement := ⟨⟨∅⟩⟩

def empty : Placement := ⟨∅⟩

/-- Records the hosts of a component in place of those it had. -/
def insert (p : Placement) (component : String) (hosts : List String) : Placement :=
  ⟨p.components.insert component hosts⟩

/-- The hosts of a component; a component that is not recorded has none. -/
def hosts (p : Placement) (component : String) : List String :=
  (p.components.get? component).getD []

def firstHost? (p : Placement) (component : String) : Option String := (p.hosts component).head?

def runsOn (p : Placement) (component host : String) : Bool := (p.hosts component).contains host

def distinctHostCount (p : Placement) (component : String) : Nat :=
  (p.hosts component).eraseDups.length

/-- The components that are recorded, also those without hosts, by name. -/
def componentNames (p : Placement) : List String := p.components.keys

def isEmpty (p : Placement) : Bool := p.components.isEmpty

def schema : Schema Placement :=
  .record "ComponentPlacement" (.cons "components" (.table (.list .text)) none .nil)
    (fun (components, ()) => ⟨components⟩) (fun p => (p.components, ()))

/-- Where a list of components runs, taken over all services. -/
def ofServices (services : Services) (names : List String) : Placement :=
  names.foldl (fun p name => p.insert name (services.hostsOf name)) empty

end Placement

end ClusterAdvisor
