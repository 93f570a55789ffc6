import ClusterAdvisor.Cluster.Configurations

/-!
The services of a cluster: each has components, each component runs on hosts. With them goes the
current configuration of the cluster.
-/

namespace ClusterAdvisor

open Json

structure Component where
  name : String
  service : String
  hosts : List String
  deriving DecidableEq, Repr

structure Service where
  name : String
  components : List Component
  deriving DecidableEq, Repr

structure Services where
  services : List Service
  configurations : Configurations

namespace Component

def schema : Schema Component :=
  .record "ComponentDescriptor"
    (.cons "component_name" .text none
      (.cons "service_name" .text (some "") (.cons "hostnames" (.list .text) (some []) .nil)))
    (fun (name, service, hosts, ()) => ⟨name, service, hosts⟩)
    (fun c => (c.name, c.service, c.hosts, ()))

/-- A component stands in a record of its own. -/
def entrySchema : Schema Component :=
  .record "ComponentEntry" (.cons "StackServiceComponents" schema none .nil)
    (fun (component, ()) => component) (fun component => (component, ()))

end Component

namespace Service

def nameSchema : Schema String :=
  .record "StackService" (.cons "service_name" .text none .nil)
    (fun (name, ()) => name) (fun name => (name, ()))

def schema : Schema Service :=
  .record "ServiceEntry"
    (.cons "StackServices" nameSchema (some "")
      (.cons "components" (.list Component.entrySchema) (some []) .nil))
    (fun (name, components, ()) => ⟨name, components⟩) (fun s => (s.name, s.components, ()))

/-- The hosts of the components with a name, in order. -/
def hostsOf (s : Service) (component : String) : List String :=
  (s.components.filter (·.name = component)).flatMap (·.hosts)

end Service

namespace Services

instance : Inhabited Services := ⟨⟨[], ∅⟩⟩

def schema : Schema Services :=
  .record "ServicesDescriptor"
    (.cons "services" (.list Service.schema) (some [])
      (.cons "configurations" Configurations.schema (some ∅) .nil))
    (fun (services, configurations, ()) => ⟨services, configurations⟩)
    (fun s => (s.services, s.configurations, ()))

def components (s : Services) : List Component := s.services.flatMap (·.components)

/-- The first service with a name. -/
def service? (s : Services) (name : String) : Option Service := s.services.find? (·.name = name)

/-- The hosts of every component with a name, whatever its service. -/
def hostsOf (s : Services) (component : String) : List String :=
  (s.components.filter (·.name = component)).flatMap (·.hosts)

def serviceHosts (s : Services) (service component : String) : List String :=
  match s.service? service with
  | some found => found.hostsOf component
  | none => []

/-- Adds a component to the first service of its name in a list; a service that is missing is
created at the end. -/
def addComponent (component : Component) : List Service → List Service
  | [] => [⟨component.service, [component]⟩]
  | service :: rest =>
    if service.name = component.service then
      { service with components := service.components ++ [component] } :: rest
    else service :: addComponent component rest

def push (s : Services) (component : Component) : Services :=
  { s with services := addComponent component s.services }

end Services

end ClusterAdvisor
