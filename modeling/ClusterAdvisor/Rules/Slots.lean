import ClusterAdvisor.Cluster.Property
import ClusterAdvisor.Settings
import ClusterAdvisor.Text.Pieces

/-!
Worker slots: how many a supervisor offers, and whether all supervisors offer enough.
-/

namespace ClusterAdvisor.Rules

open Text

def isBracket (c : Char) : Bool := c = '[' || c = ']'

/-- The ports that a text lists: pieces between commas that are not blank. Brackets around the text
do not count. -/
def listedPorts (text : String) : List (List Char) :=
  (pieces ',' (strip isBracket text.toList)).filter (·.any (!isBlank ·))

/-- The slots that the ports of a supervisor make: of a text the ports it lists, of a list its
items, of anything else one; without the property there are none. -/
def slotsPerSupervisor : Option PropertyValue → Nat
  | some (.text ports) => (listedPorts ports).length
  | some (.list ports) => ports.length
  | some (.integer _) => 1
  | some (.other _) => 1
  | none => 0

structure SlotCapacity where
  slotsPerSupervisor : Nat
  supervisors : Nat
  deriving DecidableEq, Repr

namespace SlotCapacity

def greatest : Nat := UInt64.size - 1

/-- All slots; a number that does not fit 64 bits becomes the greatest one that does. -/
def total (c : SlotCapacity) : UInt64 :=
  UInt64.ofNat (min (c.slotsPerSupervisor * c.supervisors) greatest)

def isSufficient (c : SlotCapacity) (minimum : UInt64) : Bool := minimum ≤ c.total

/-- Which minimum is asked for. What the slots are for is told only of a default install. -/
def requirement (minimum : UInt64) : String :=
  if minimum = Settings.defaultMinimumSlots then
    "A default install of Metron requires " ++ toString minimum.toNat ++
      " Storm slots (3 parsers, 1 enricher/threat-intel, and 1 indexer/persistence topology)."
  else
    "This cluster is configured to require " ++ toString minimum.toNat ++
      " Storm slots for Metron."

def shortfallMessage (c : SlotCapacity) (minimum : UInt64) : String :=
  requirement minimum ++
    " Additional Metron features, such as Profiling, require additional Storm slots." ++
    " This property currently specifies only " ++ toString c.slotsPerSupervisor ++
    " slots per supervisor, which, times " ++ toString c.supervisors ++
    " supervisors, provisions " ++ toString c.total.toNat ++
    " total slots. Please extend this property so at least " ++ toString minimum.toNat ++
    " total slots are provisioned, and be aware if some topologies are not running it may be" ++
    " due to lack of slots to assign them.  Topology slot assignments can be checked at runtime" ++
    " in the Storm UI."

end SlotCapacity

end ClusterAdvisor.Rules
