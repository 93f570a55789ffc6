import ClusterAdvisor.Cluster.Property

/-!
Configuration sites: named groups of properties, and all sites of a cluster by name.
-/

namespace ClusterAdvisor

open Json

abbrev Site := Table PropertyValue

abbrev Configurations := Table Site

namespace Site

/-- A site is written as a record with one field. -/
def schema : Schema Site :=
  .record "ConfigSite" (.cons "properties" (.table PropertyValue.schema) (some ∅) .nil)
    (fun (properties, ()) => properties) (fun properties => (properties, ()))

end Site

namespace Configurations

def property? (c : Configurations) (site name : String) : Option PropertyValue :=
  (c.get? site).bind (·.get? name)

/-- Sets a property; a site that is not there is created. -/
def put (c : Configurations) (site name : String) (value : PropertyValue) : Configurations :=
  c.insert site (((c.get? site).getD ∅).insert name value)

def schema : Schema Configurations := .table Site.schema

def toValue (c : Configurations) : Value := schema.toValue c

end Configurations

end ClusterAdvisor
