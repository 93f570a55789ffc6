import ClusterAdvisor.Json.Schema

/-!
The hosts of a cluster, by name.
-/

namespace ClusterAdvisor

open Json

/-- The names of the hosts, in the order of the document. -/
structure Hosts where
  names : List String
  deriving DecidableEq, Repr

namespace Hosts

instance : Inhabited Hosts := ⟨⟨[]⟩⟩

def hostSchema : Schema String :=
  .record "HostEntry"
    (.cons "Hosts"
      (.record "HostInfo" (.cons "host_name" .text none .nil)
        (fun (name, ()) => name) (fun name => (name, ())))
      none .nil)
    (fun (name, ()) => name) (fun name => (name, ()))

def schema : Schema Hosts :=
  .record "HostsDescriptor" (.cons "items" (.list hostSchema) (some []) .nil)
    (fun (names, ()) => ⟨names⟩) (fun hosts => (hosts.names, ()))

end Hosts

end ClusterAdvisor
