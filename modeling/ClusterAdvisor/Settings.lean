import ClusterAdvisor.Failure
import ClusterAdvisor.Text.Blank
import ClusterAdvisor.Text.LetterCase

/-!
The settings of a run: how many Storm slots the cluster has to provide, and how much is logged. They
come from variables and may be changed one by one; a value that is refused changes nothing.
-/

namespace ClusterAdvisor

/-- How much is logged, from most to least. -/
inductive LogLevel where
  | trace
  | debug
  | info
  | warn
  | error
  deriving DecidableEq, Repr

namespace LogLevel

def all : List LogLevel := [.trace, .debug, .info, .warn, .error]

def name : LogLevel → String
  | .trace => "trace"
  | .debug => "debug"
  | .info => "info"
  | .warn => "warn"
  | .error => "error"

/-- The level with a name, written in any case and with blanks around it. A name that is refused is
shown as it was compared. -/
def ofName (s : String) : Except Failure LogLevel :=
  let wanted := Text.lowercase (Text.trim s)
  match all.find? (·.name = wanted) with
  | some level => .ok level
  | none =>
    .error (.setting ("log level must be one of " ++ ", ".intercalate (all.map name) ++
      ", got '" ++ wanted ++ "'"))

end LogLevel

/-- The settings of a run. With no slots to provide the capacity check would be switched off. -/
structure Settings where
  minimumSlots : UInt64
  logLevel : LogLevel
  minimumSlots_pos : 0 < minimumSlots
  deriving DecidableEq

namespace Settings

/-- The slots that a default install needs: three parsers, one enrichment and one indexing
topology. -/
def defaultMinimumSlots : UInt64 := 5

def default : Settings := ⟨defaultMinimumSlots, .info, by decide⟩

def minimumSlotsVariable : String := "METRON_ADVISOR_MIN_SLOTS"
def logLevelVariable : String := "METRON_ADVISOR_LOG_LEVEL"

def withMinimumSlots (s : Settings) (slots : UInt64) : Except Failure Settings :=
  if h : 0 < slots then .ok { s with minimumSlots := slots, minimumSlots_pos := h }
  else
    .error (.setting ("minimum Storm slots must be a positive integer, got " ++
      toString slots.toNat))

def withLogLevel (s : Settings) (name : String) : Except Failure Settings :=
  (LogLevel.ofName name).map fun level => { s with logLevel := level }

/-- The number of some decimal digits, with or without a plus sign, if it fits 64 bits. -/
def readCount? (text : List Char) : Option UInt64 :=
  let digits :=
    match text with
    | '+' :: rest => rest
    | _ => text
  if digits.isEmpty || !digits.all Char.isDigit then none
  else
    let n := digits.foldl (fun n c => 10 * n + (c.toNat - '0'.toNat)) 0
    if n < UInt64.size then some (UInt64.ofNat n) else none

def readMinimumSlots (raw : String) : Except Failure UInt64 :=
  match readCount? (Text.trim raw).toList with
  | some slots => .ok slots
  | none =>
    .error (.setting (minimumSlotsVariable ++ " must be a positive integer, got '" ++ raw ++ "'"))

/-- The settings that variables give, first the slots and then the log level. -/
def ofVariables (lookup : String → Option String) : Except Failure Settings := do
  let s ←
    match lookup minimumSlotsVariable with
    | some raw => default.withMinimumSlots (← readMinimumSlots raw)
    | none => pure default
  match lookup logLevelVariable with
  | some name => s.withLogLevel name
  | none => pure s

end Settings

end ClusterAdvisor
