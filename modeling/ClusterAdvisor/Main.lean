import ClusterAdvisor.Directory

/-!
The program: it hands the arguments, variables and files of the process to a run and carries out
what the run leaves behind. Log lines go to standard error, the answer to standard output or to a
file.
-/

namespace ClusterAdvisor

def readFile? (path : String) : IO (Option ByteArray) := do
  try
    return some (← IO.FS.readBinFile path)
  catch _ =>
    return none

/-- The content of the first file that is there. If that one cannot be read, there is none. -/
def firstFile? : List String → IO (Option ByteArray)
  | [] => return none
  | path :: others => do
    try
      return some (← IO.FS.readBinFile path)
    catch
      | .noFileOrDirectory .. | .inappropriateType .. => firstFile? others
      | _ => return none

def envFile? : IO (Option ByteArray) := do
  let levels := (Text.pieces '/' (← IO.currentDir).toString.toList).length
  let paths := (List.range levels).map fun level =>
    String.join (List.replicate level "../") ++ CommandLine.envFileName
  firstFile? paths

/-- The names that may stand behind the dollar signs of a text. -/
def usedNames : List Char → List String
  | [] => []
  | c :: rest =>
    if c = '$' then
      String.ofList (rest.takeWhile Text.isAlphanumeric) ::
        String.ofList ((rest.drop 1).takeWhile (· ≠ '}')) :: usedNames rest
    else usedNames rest

def possibleNames (content : ByteArray) : List String :=
  (EnvFile.lines content.toList).flatMap fun line =>
    let text := ((String.fromUTF8? (ByteArray.mk line.toArray)).getD "").toList
    let words := text.splitBy fun a b => EnvFile.isNameChar a && EnvFile.isNameChar b
    words.map String.ofList ++ usedNames text

def environment (envFile : Option ByteArray) : IO Variables := do
  let names := CommandLine.filterVariable :: Settings.minimumSlotsVariable ::
    Settings.logLevelVariable :: (envFile.map possibleNames).getD []
  let values ← names.mapM fun name => do return (name, ← IO.getEnv name)
  return fun name => (values.lookup name).join

def readFiles (paths : RequestFiles) : IO Files := do
  let names := paths.hosts :: paths.services :: paths.recommendations.toList
  let contents ← names.mapM fun name => do return (name, ← readFile? name)
  return fun name => (contents.lookup name).join

/-- Writes a file and tells whether that was possible. -/
def writeFile (path text : String) : IO Bool := do
  try
    IO.FS.writeFile path text
    return true
  catch _ =>
    return false

/-- Prints to standard output and tells what that failed with, if it did. -/
def print? (text : String) : IO (Option String) := do
  try
    IO.print text
    (← IO.getStdout).flush
    return none
  catch fault =>
    return some (toString fault)

def report (outcome : CommandLine.Outcome) : IO UInt32 := do
  for line in outcome.log ++ outcome.closing do
    IO.eprintln line
  if let some text := outcome.errorText then
    IO.eprintln text
  return outcome.exitCode.toUInt32

def runProgram (args : List String) : IO UInt32 := do
  let envFile ← envFile?
  let vars := CommandLine.knownVariables? (← environment envFile) envFile
  match CommandLine.start args vars with
  | .refused =>
    IO.eprint Arguments.usage
    return 2
  | .help =>
    IO.print CommandLine.helped.output
    report CommandLine.helped
  | .misconfigured failure => report (CommandLine.stopped failure)
  | .halted => report CommandLine.brokenOff
  | .ready args settings filter =>
    let answer := CommandLine.answer args settings (← readFiles args.files)
    let written ←
      match answer.text?, args.output with
      | .ok text, some path => writeFile path text
      | _, _ => pure true
    -- Whether standard output can be written is known only once that has been tried.
    let attempt := CommandLine.finish args filter answer ⟨none, fun _ => written⟩
    let outputFault ← print? attempt.output
    report (CommandLine.finish args filter answer ⟨outputFault, fun _ => written⟩)

end ClusterAdvisor

def main (args : List String) : IO UInt32 := ClusterAdvisor.runProgram args
