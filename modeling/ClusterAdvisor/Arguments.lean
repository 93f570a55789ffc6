import ClusterAdvisor.RequestFiles

/-!
The arguments of the command line: an action, the documents of hosts and services, and options,
which may stand anywhere and each at most once. A request for help is another thing than arguments
that cannot be understood, and comes first if nothing in front of it is wrong.
-/

namespace ClusterAdvisor

structure Arguments where
  action : Action
  files : RequestFiles
  output : Option String
  logLevel : Option String
  minimumSlots : Option UInt64

/-- The options; each has a value. -/
inductive Flag where
  | recommendations
  | output
  | logLevel
  | minimumSlots
  deriving DecidableEq, Repr

namespace Flag

def all : List Flag := [.recommendations, .output, .logLevel, .minimumSlots]

def name : Flag → String
  | .recommendations => "--recommendations"
  | .output => "--output"
  | .logLevel => "--log-level"
  | .minimumSlots => "--min-slots"

def ofName? (name : List Char) : Option Flag := all.find? (·.name.toList = name)

/-- Whether an option takes a value. A path must not be empty; a level is looked at with the
settings. -/
def admits : Flag → String → Bool
  | .recommendations, path | .output, path => !path.isEmpty
  | .logLevel, _ => true
  | .minimumSlots, count => (Settings.readCount? count.toList).isSome

end Flag

namespace Arguments

/-- Arguments taken apart: what is no option, in order, and the options with their values. -/
structure Parts where
  positional : List String
  flags : List (Flag × String)

def Parts.addPositional (arg : String) (p : Parts) : Parts :=
  { p with positional := arg :: p.positional }

def Parts.addFlag (flag : Flag) (value : String) (p : Parts) : Parts :=
  { p with flags := (flag, value) :: p.flags }

inductive Split where
  /-- An option is unknown or has no value. -/
  | refused
  /-- Help is asked for, behind some parts. -/
  | help (before : Parts)
  | whole (parts : Parts)

def Split.map (f : Parts → Parts) : Split → Split
  | .refused => .refused
  | .help before => .help (f before)
  | .whole parts => .whole (f parts)

/-- Whether an argument looks like an option; a lone dash does not. -/
def looksLikeFlag (arg : String) : Bool := arg.toList.head? = some '-' && arg ≠ "-"

/-- Whether an option asks for help. Of letters behind one dash the first one counts. -/
def isHelp (arg : String) : Bool := arg = "--help" || ['-', 'h'].isPrefixOf arg.toList

/-- Takes arguments apart. Two dashes end the options. -/
def split : List String → Split
  | [] => .whole ⟨[], []⟩
  | arg :: rest =>
    if arg = "--" then .whole ⟨rest, []⟩
    else if !looksLikeFlag arg then (split rest).map (Parts.addPositional arg)
    else if isHelp arg then .help ⟨[], []⟩
    else
      match Flag.ofName? (arg.toList.takeWhile (· ≠ '=')) with
      | none => .refused
      | some flag =>
        match arg.toList.dropWhile (· ≠ '=') with
        | _ :: value => (split rest).map (Parts.addFlag flag (String.ofList value))
        | [] =>
          match rest with
          | value :: rest =>
            if looksLikeFlag value then .refused else (split rest).map (Parts.addFlag flag value)
          | [] => .refused

def repeatsFlag (flags : List (Flag × String)) : Bool :=
  Flag.all.any fun flag => 1 < flags.countP (·.1 = flag)

def Parts.isSound (p : Parts) : Bool :=
  !repeatsFlag p.flags && p.flags.all (fun (flag, value) => flag.admits value) &&
    match p.positional with
    | [] => true
    | action :: paths =>
      (Action.ofName? action).isSome && paths.length ≤ 2 && paths.all (!·.isEmpty)

/-- What the arguments ask for; none if they cannot be understood. -/
def ofList? (args : List String) : Option Arguments :=
  match split args with
  | .whole parts =>
    match parts.isSound, parts.positional with
    | true, [action, hosts, services] => do
      pure
        { action := ← Action.ofName? action
          files := ⟨hosts, services, parts.flags.lookup .recommendations⟩
          output := parts.flags.lookup .output
          logLevel := parts.flags.lookup .logLevel
          minimumSlots := (parts.flags.lookup .minimumSlots).bind fun count =>
            Settings.readCount? count.toList }
    | _, _ => none
  | _ => none

/-- Whether the arguments ask for help before anything is wrong with them. -/
def asksForHelp (args : List String) : Bool :=
  match split args with
  | .help before => before.isSound
  | _ => false

/-- What is printed for a request for help. The wording is free. -/
def usage : String :=
  "usage: ACTION HOSTS SERVICES [--recommendations FILE] [--output FILE] [--log-level LEVEL] " ++
    "[--min-slots N]\n"

end Arguments

end ClusterAdvisor
