import ClusterAdvisor.Advice.Item
import ClusterAdvisor.Cluster.Placement
import ClusterAdvisor.Rules.Classpath
import ClusterAdvisor.Rules.Components
import ClusterAdvisor.Rules.Slots

/-!
What the Storm site has to hold: the paths that Metron needs on the class path of topologies, and
ports for enough worker slots.
-/

namespace ClusterAdvisor.Rules

def stormSite : String := "storm-site"
def metronEnv : String := "metron-env"

def topologyClasspath : String := "topology.classpath"
def supervisorPorts : String := "supervisor.slots.ports"
def uiPort : String := "ui.port"

def mysqlHost : String := "mysql_host"
def stormRestAddress : String := "storm_rest_addr"

/-- A value that Metron needs in the Storm site. It is a list of paths, and the current value need not
be the same but has to hold each of them. -/
structure Desired where
  property : String
  value : String
  deriving DecidableEq, Repr

def desiredClasspath : String := "/etc/hbase/conf:/etc/hadoop/conf"

def neededClasspath : Desired := ⟨topologyClasspath, desiredClasspath⟩

def desiredValues : List Desired := [neededClasspath]

namespace Desired

def absenceLevel (d : Desired) : Severity :=
  if d.property = topologyClasspath then .error else .warning

/-- The finding about a value, if there is one. It is one finding however many paths are missing. -/
def finding? (d : Desired) (site : Site) : Option Finding :=
  match site.get? d.property with
  | none =>
    some ⟨d.property, d.absenceLevel,
      "Metron requires this property to be set to the recommended value of " ++ d.value⟩
  | some current =>
    let shown := current.display
    if shown ≠ d.value ∧ missingPaths d.value shown ≠ [] then
      some ⟨d.property, .error, "Metron requires this property to contain " ++ d.value⟩
    else none

end Desired

def desiredFindings (table : List Desired) (site : Site) : List Finding :=
  table.filterMap (·.finding? site)

def stormCapacity (site : Site) (p : Placement) : SlotCapacity :=
  ⟨slotsPerSupervisor (site.get? supervisorPorts), p.distinctHostCount supervisor⟩

def slotsFinding? (settings : Settings) (site : Site) (p : Placement) : Option Finding :=
  let capacity := stormCapacity site p
  if capacity.isSufficient settings.minimumSlots then none
  else some ⟨supervisorPorts, .error, capacity.shortfallMessage settings.minimumSlots⟩

/-- The items of a Storm site: first the desired values, then the slots. -/
def checkStormSite (settings : Settings) (site : Site) (p : Placement) : List Item :=
  (desiredFindings desiredValues site ++ (slotsFinding? settings site p).toList).map
    (Item.ofFinding stormSite)

/-- The Storm site that is to be checked: the current one, if it is also among the recommended
defaults. -/
def siteToCheck? (current defaults : Configurations) : Option Site :=
  if defaults.contains stormSite then current.get? stormSite else none

/-- The items of the current configuration; a site on one side only gives none. -/
def checkConfigurations (settings : Settings) (current defaults : Configurations)
    (p : Placement) : List Item :=
  match siteToCheck? current defaults with
  | some site => checkStormSite settings site p
  | none => []

end ClusterAdvisor.Rules
