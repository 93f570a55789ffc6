import ClusterAdvisor.Arguments
import ClusterAdvisor.EnvFile
import ClusterAdvisor.Log.Filter

/-!
A run from the command line, as a function of the arguments, the variables and the files: what is
printed, logged and written, and how it ends. A run that fails prints and writes nothing.
-/

namespace ClusterAdvisor.CommandLine

open Log

/-- What a run leaves behind. -/
structure Outcome where
  exitCode : UInt8
  /-- Standard output. -/
  output : String
  /-- The lines of the log up to the answer. -/
  log : List String
  /-- The lines of the log behind the answer: how the run ended. -/
  closing : List String
  /-- The text that ends a run that failed. -/
  errorText : Option String
  /-- The file that was written, and its content. -/
  written : Option (String × String)

inductive Start where
  /-- The arguments cannot be understood. -/
  | refused
  | help
  /-- The settings are wrong; nothing is logged yet. -/
  | misconfigured (failure : Failure)
  /-- The variables or the log cannot be set up. -/
  | halted
  | ready (args : Arguments) (settings : Settings) (filter : Filter)

/-- The settings of a run: those of the variables, changed by the options. -/
def effectiveSettings (args : Arguments) (vars : Variables) : Except Failure Settings := do
  let s ← Settings.ofVariables vars
  let s ←
    match args.logLevel with
    | some level => s.withLogLevel level
    | none => pure s
  match args.minimumSlots with
  | some slots => s.withMinimumSlots slots
  | none => pure s

def filterVariable : String := "RUST_LOG"

/-- Begins a run with arguments: looks at the settings, then at the filter of the log. -/
def startWith (args : Arguments) (vars : Variables) : Start :=
  match effectiveSettings args vars with
  | .error failure => .misconfigured failure
  | .ok settings =>
    match Filter.ofRequest? (vars filterVariable) settings.logLevel with
    | none => .halted
    | some filter => .ready args settings filter

def start (args : List String) (vars : Option Variables) : Start :=
  if Arguments.asksForHelp args then .help
  else
    match Arguments.ofList? args with
    | none => .refused
    | some args =>
      match vars with
      | none => .halted
      | some vars => startWith args vars

structure Answer where
  events : List Event
  result : Except Failure Response

def answer (args : Arguments) (settings : Settings) (files : Files) : Answer :=
  let begun := [Event.started args.action, .minimumSlots args.action settings.minimumSlots]
  match args.files.load files with
  | .error failure => ⟨begun, .error failure⟩
  | .ok request =>
    let loaded := Event.loaded args.action request.hosts.names.length
      request.services.services.length args.files.services
    ⟨begun ++ loaded :: requestEvents settings request args.action,
      request.answer settings args.action⟩

def Answer.text? (a : Answer) : Except Failure String := a.result.map (·.toValue.pretty)

/-- Puts a text of several lines under its first line. -/
def indentRest (width : Nat) (s : String) : String :=
  String.ofList (s.toList.flatMap fun c =>
    if c = '\n' then '\n' :: List.replicate width ' ' else [c])

/-- The causes of a failure: one is indented, several are numbered. -/
def causeLines : List String → List String
  | [cause] => ["    " ++ indentRest 4 cause]
  | causes => causes.mapIdx fun i cause => "    " ++ toString i ++ ": " ++ indentRest 7 cause

/-- The text that ends a run: what could not be done, and why. -/
def errorText (complaint : String) (causes : List String) : String :=
  let head := "Error: " ++ complaint
  if causes.isEmpty then head
  else head ++ "\n\nCaused by:\n" ++ "\n".intercalate (causeLines causes)

/-- A run that only tells how to ask for another one. -/
def helped : Outcome := ⟨0, Arguments.usage, [], [], none, none⟩

/-- A run that stops before it has begun. -/
def stopped (failure : Failure) : Outcome :=
  ⟨1, "", [], [], some (errorText failure.message failure.cause?.toList), none⟩

/-- A run that breaks off without a word, as its variables or its log cannot be set up. -/
def brokenOff : Outcome := ⟨101, "", [], [], none, none⟩

def shownLines (filter : Filter) (events : List Event) : List String :=
  (events.filter filter.shows).map Event.line

def broken (args : Arguments) (filter : Filter) (events : List Event) (failure : Failure) :
    Outcome :=
  let complaint := args.action.name ++ " on " ++ args.files.services
  ⟨1, "", shownLines filter events, shownLines filter [.failed args.action failure],
    some (errorText complaint (failure.message :: failure.cause?.toList)), none⟩

def completed (args : Arguments) (filter : Filter) (events : List Event) (text : String) :
    Outcome :=
  let log := shownLines filter events
  let closing := shownLines filter [.succeeded args.action]
  match args.output with
  | some path => ⟨0, "", log, closing, none, some (path, text)⟩
  | none => ⟨0, text ++ "\n", log, closing, none, none⟩

structure Outlets where
  /-- What a write to standard output fails with, if it fails. -/
  outputFault : Option String
  /-- Whether a file can be written. -/
  writable : String → Bool

/-- Why an answer cannot be written to where it is asked for, if so. -/
def Outlets.refusal? (o : Outlets) : (output : Option String) → Option Failure
  | none => o.outputFault.map .output
  | some path => if o.writable path then none else some (.file "write" path)

def finish (args : Arguments) (filter : Filter) (a : Answer) (outlets : Outlets) : Outcome :=
  match a.text? with
  | .error failure => broken args filter a.events failure
  | .ok text =>
    match outlets.refusal? args.output with
    | some failure => broken args filter a.events failure
    | none => completed args filter a.events text

/-- A whole run; none if the arguments cannot be understood. -/
def run (args : List String) (vars : Option Variables) (files : Files) (outlets : Outlets) :
    Option Outcome :=
  match start args vars with
  | .refused => none
  | .help => some helped
  | .misconfigured failure => some (stopped failure)
  | .halted => some brokenOff
  | .ready args settings filter =>
    some (finish args filter (answer args settings files) outlets)

def envFileName : String := ".env"

/-- The variables of a run: those of the environment, and behind them those of a file; none if one
of them cannot be set. -/
def knownVariables? (environment : Variables) (envFile : Option ByteArray) : Option Variables :=
  match envFile with
  | some content => EnvFile.fill? environment content
  | none => some environment

end ClusterAdvisor.CommandLine
