import ClusterAdvisor.CommandLine
import ClusterAdvisor.Surroundings

/-!
The directory of a run, with the files in it and around it, and a run inside it: what the files hold
before decides the run, and the file that the run writes is the only one that changes.
-/

namespace ClusterAdvisor

/-- Where a run takes place. Files are told by their paths from the root. -/
structure Directory where
  /-- The steps from the root to the directory. -/
  location : List String
  files : Table ByteArray
  /-- What a write to standard output fails with, if it fails. -/
  outputFault : Option String

namespace Directory

def key (steps : List String) : String := "/".intercalate steps

def isFolder (d : Directory) (steps : List String) : Bool :=
  steps.isPrefixOf d.location || Surroundings.isFolder steps ||
    d.files.keys.any (·.startsWith (key steps ++ "/"))

/-- Where steps lead to, the last one of which may be a link. -/
def follow (d : Directory) (steps : List String) : List String :=
  ((Surroundings.links d.location).lookup steps).getD steps

def enter? (d : Directory) (steps : List String) (step : String) : Option (List String) :=
  if step = "" || step = "." then some steps
  else if step = ".." then some steps.dropLast
  else
    let next := d.follow (steps ++ [step])
    if d.isFolder next then some next else none

def longestPath : Nat := 4095
def longestName : Nat := 255

/-- The steps from the root to what a path names, whether it is there or not. A path that is too
long or that ends like the path of a folder names nothing. -/
def place? (d : Directory) (path : String) : Option (List String) := do
  if longestPath < path.utf8ByteSize then failure
  let steps := (Text.pieces '/' path.toList).map String.ofList
  let inner ← steps.dropLast.foldlM d.enter? (if path.startsWith "/" then [] else d.location)
  let name ← steps.getLast?
  if name ∈ ["", ".", ".."] then failure
  pure (d.follow (inner ++ [name]))

def device? (d : Directory) (path : String) : Option Device :=
  (d.place? path).bind fun steps => Surroundings.devices.lookup steps

def read? (d : Directory) (path : String) : Option ByteArray :=
  match d.device? path with
  | some device => device.content?
  | none => (d.place? path).bind fun steps => d.files.get? (key steps)

/-- The file of a name in the nearest folder on the way out of a place, whose steps are given from
the last one to the first. -/
def nearest? (d : Directory) (name : String) : (outwards : List String) → Option ByteArray
  | [] => d.files.get? (key [name])
  | step :: outer =>
    (d.files.get? (key (name :: step :: outer).reverse)).or (d.nearest? name outer)

def envFile? (d : Directory) : Option ByteArray :=
  d.nearest? CommandLine.envFileName d.location.reverse

/-- Whether a file can be written in a place: in the directory or in a folder on the way to it, with
a name that is not too long, and where there is no folder. -/
def admitsFile (d : Directory) (steps : List String) : Bool :=
  (d.location.isPrefixOf steps || steps.dropLast.isPrefixOf d.location) &&
    steps.getLast?.all (·.utf8ByteSize ≤ longestName) && !d.isFolder steps

def canWrite (d : Directory) (path : String) : Bool :=
  match d.device? path with
  | some .output => d.outputFault.isNone
  | some device => device.isWritable
  | none => (d.place? path).any d.admitsFile

def outlets (d : Directory) : CommandLine.Outlets := ⟨d.outputFault, d.canWrite⟩

/-- Writes a file. What goes to a device is kept nowhere. -/
def write (d : Directory) (path text : String) : Directory :=
  match d.device? path, d.place? path with
  | none, some steps => { d with files := d.files.insert (key steps) text.toUTF8 }
  | _, _ => d

end Directory

namespace CommandLine

/-- An outcome whose answer stands between the lines of the log, without an end of its last line. -/
def Outcome.answerInLog (text : String) (o : Outcome) : Outcome :=
  match o.closing with
  | [] => { o with log := o.log ++ [text] }
  | line :: closing => { o with log := o.log ++ [text ++ line], closing }

/-- An outcome once its text has reached the place it is for. What is written to the devices of
standard output and standard error is seen there. -/
def Outcome.deliver (o : Outcome) (d : Directory) : Outcome × Directory :=
  match o.written with
  | none => (o, d)
  | some (path, text) =>
    match d.device? path with
    | some .output => ({ o with output := text }, d)
    | some .errors => (o.answerInLog text, d)
    | _ => (o, d.write path text)

/-- A run in a directory, and the directory afterwards; no outcome if the arguments cannot be
understood. -/
def runIn (args : List String) (environment : Variables) (d : Directory) :
    Option Outcome × Directory :=
  match run args (knownVariables? environment d.envFile?) d.read? d.outlets with
  | none => (none, d)
  | some outcome =>
    let (delivered, after) := outcome.deliver d
    (some delivered, after)

end CommandLine

end ClusterAdvisor
