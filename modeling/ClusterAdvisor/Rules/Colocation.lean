import ClusterAdvisor.Advice.Item
import ClusterAdvisor.Cluster.Placement
import ClusterAdvisor.Failure
import ClusterAdvisor.Rules.Components

/-!
Which components have to share a host. The parsers, the enrichment master, the indexing and the
MySQL server of Metron live on one host, and the services that they talk to have to be there as
well. Of a component with several hosts the first one counts.
-/

namespace ClusterAdvisor.Rules

def requiredFirstHost (p : Placement) (component : String) : Except Failure String :=
  match p.firstHost? component with
  | some host => .ok host
  | none => .error (.missingComponent component)

structure MetronHosts where
  parsers : String
  enrichment : String
  indexing : String
  mysql : String
  deriving DecidableEq, Repr

/-- The hosts of the components of Metron; the first component without a host is the failure. -/
def MetronHosts.ofPlacement (p : Placement) : Except Failure MetronHosts := do
  let parsers ← requiredFirstHost p metronParsers
  let enrichment ← requiredFirstHost p metronEnrichment
  let indexing ← requiredFirstHost p metronIndexing
  let mysql ← requiredFirstHost p metronMysql
  pure ⟨parsers, enrichment, indexing, mysql⟩

/-- A rule: whether it is kept, and the item that tells that it is not. -/
structure Rule where
  kept : Bool
  item : Item

/-- A component has to run on a host; if not, that is told of another component which is there. -/
def neighbour (p : Placement) (level : Severity) (message needed component host : String) : Rule :=
  ⟨p.runsOn needed host, .onHost level message component host⟩

def withParsers (parsers subject component host : String) : Rule :=
  ⟨host = parsers,
    .onHost .error (subject ++ " must be co-located with Metron Parsers on " ++ parsers)
      component host⟩

/-- The rules of co-location, in the order in which they are reported. -/
def colocationRules (p : Placement) (h : MetronHosts) : List Rule :=
  [ neighbour p .error "Metron must be colocated with an instance of KAFKA BROKER"
      kafkaBroker metronParsers h.parsers,
    neighbour p .warning "Metron must be colocated with an instance of STORM SUPERVISOR"
      supervisor metronParsers h.parsers,
    withParsers h.parsers "Metron Enrichment Master" metronEnrichment h.enrichment,
    withParsers h.parsers "Metron Indexing" metronIndexing h.indexing,
    withParsers h.parsers "Metron MySQL Server" metronMysql h.mysql,
    neighbour p .warning "Metron must be co-located with an instance of Zookeeper Client"
      zookeeperClient metronParsers h.parsers,
    neighbour p .warning "Metron must be co-located with an instance of HDFS Client"
      hdfsClient metronParsers h.parsers,
    neighbour p .warning
      "Metron Enrichment Master must be co-located with an instance of HBase Client"
      hbaseClient metronEnrichment h.enrichment ]

def broken (rules : List Rule) : List Item :=
  (rules.filter fun rule => !rule.kept).map (·.item)

/-- The items of the co-location rules that a placement breaks, in rule order. -/
def checkPlacement (p : Placement) : Except Failure (List Item) := do
  let hosts ← MetronHosts.ofPlacement p
  pure (broken (colocationRules p hosts))

end ClusterAdvisor.Rules
