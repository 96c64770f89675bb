import Std.Time
import StationBench.Session
/-!
# The program

The outer layer of a session: it takes the arguments, the environment and the files from the
system, writes the log as it comes, and spends the time on the wall that a run asks for. What it
does in between is said in `StationBench.Session`. Nothing cancels a run here, and settings files
are written in one of the two common ways.
-/
namespace StationBench.Program

/-- The number that the system gives an error, whichever its sign. -/
def errorCode? : IO.Error → Option Nat
  | .alreadyExists _ code _ | .noFileOrDirectory _ code _ | .invalidArgument _ code _
  | .permissionDenied _ code _ | .resourceExhausted _ code _ | .inappropriateType _ code _
  | .noSuchThing _ code _ | .otherError code _ => some (min code.toNat (-code).toNat)
  | _ => none

/-- The fault of a file, as the system reports it. -/
def fileFault (e : IO.Error) : FileFault :=
  ((errorCode? e).bind FileFault.ofCode?).getD (.other "Other" (toString e))

/-- Reads a file that has to be text. -/
def readText (name : String) : IO (Except FileFault String) := do
  if let some fault := Route.fault? name then return .error fault
  try
    match String.fromUTF8? (← IO.FS.readBinFile name) with
    | some text => return .ok text
    | none => return .error .invalidData
  catch e => return .error (fileFault e)

/-- Reads some files, by their names. -/
def readTexts (names : List String) : IO (String → Except FileFault String) := do
  let texts ← names.mapM fun name => do return (name, ← readText name)
  return fun name => (texts.lookup name).getD (.error .notFound)

/-- Writes a file, and makes the directories it goes to. -/
def writeText (name text : String) : IO (Option FileFault) := do
  if let some fault := Route.fault? name then return some fault
  try
    if let some folder := (Route.ofName name).parent? then
      unless folder.parts.isEmpty do IO.FS.createDirAll folder.name
    IO.FS.writeFile name text
    return none
  catch e => return some (fileFault e)

/-- One variable of the environment, where a name and a value are joined. -/
def splitVariable (cs : List Char) : String × String :=
  (String.ofList (cs.takeWhile (· ≠ '=')), String.ofList ((cs.dropWhile (· ≠ '=')).drop 1))

/-- All variables of the environment. -/
def readEnvironment : IO (List (String × String)) := do
  match ← readText "/proc/self/environ" with
  | .ok text =>
    return ((text.split (· = '\x00')).toList.map fun s => s.toString.toList).filter (!·.isEmpty)
      |>.map splitVariable
  | .error _ => return []

/-- The mark of the present time in a log. -/
def stamp : IO String := do
  return (← Std.Time.PlainDateTime.now).format "'['uuuu-MM-dd']['HH:mm:ss']'"

/-- The present time as reports say it. -/
def moment : IO String := do
  return (← Std.Time.DateTime.now).format "uuuu-MM-dd'T'HH:mm:ss.SSSSSSSSSxxx"

/-- Where the records of a log go. -/
abbrev Sink := LogRecord → IO Unit

/-- Opens the log: the standard output and, if it is asked for, a file. -/
def openLog (options : Options) : IO (Option Sink) := do
  let write (handles : List IO.FS.Handle) (r : LogRecord) : IO Unit := do
    if options.logLevel.admits r.severity then
      let line := r.written (← stamp)
      IO.print line
      for h in handles do
        h.putStr line
        h.flush
  match options.logFile with
  | none => return some (write [])
  | some name =>
    try
      return some (write [← IO.FS.Handle.mk name .append])
    catch e =>
      IO.eprintln ("Failed to initialize logging: " ++ toString e)
      return none

/-- Lets time on the wall pass, in milliseconds. -/
def pause (ms : Nat) : IO Unit := do
  for _ in [0 : ms / 1000000] do IO.sleep 1000000
  IO.sleep (ms % 1000000).toUInt32

/-- Visits the tests from the one at `index` on, and tells the log about each. -/
def visit (plan : Session.Plan) (sink : Sink) (started index : Nat) :
    List Test → IO (List Visit × Option Interruption)
  | [] => return ([], none)
  | test :: rest => do
    let elapsed := (← IO.monoNanosNow) - started
    match plan.settings.stop? { cancelled := false, elapsed } with
    | some stop =>
      let interruption : Interruption := { stop, before := test.name }
      sink interruption.record
      return ([], some interruption)
    | none =>
      let v := plan.suite.visit plan.settings index test
      pause v.waited
      v.records.forM sink
      let (later, interruption) ← visit plan sink started (index + 1) rest
      return (v :: later, interruption)

/-- Carries out a plan and gives the exit code. -/
def carryOut (options : Options) (plan : Session.Plan) (sink : Sink) : IO UInt32 := do
  (Session.loadRecords options.file plan.suite).forM sink
  let planned := plan.suite.tests.length
  let startedAt ← moment
  sink (Run.opening planned plan.settings.seed)
  let (visits, interruption) ← visit plan sink (← IO.monoNanosNow) 0 plan.suite.tests
  let run : Run := { seed := plan.settings.seed, planned, visits, interruption }
  sink (Run.closing run.report)
  if let some path := plan.settings.report then
    sink (Session.saveRecord path (← writeText path (run.report.savedText startedAt)))
  (Session.failureRecords run.report).forM sink
  return (Session.exitCode run.report).toUInt32

/-- The options of the command line, one a line. -/
def usage : String :=
  let line (o : OptionName) : String :=
    "\n  --" ++ o.long ++ ((o.letter?.map fun c => ", -" ++ String.ofList [c]).getD "") ++
      (if o.takesValue then " VALUE" else "")
  "usage: FILE [options]" ++ String.join (OptionName.all.map line)

/-- Runs the program and gives its exit code. -/
def run (arguments : List String) : IO UInt32 := do
  let environment ← readEnvironment
  match Options.ofArguments arguments environment with
  | .error fault =>
    match fault with
    | .helpDisplayed => IO.println usage
    | .versionDisplayed => IO.println "0.0.1"
    | fault => IO.eprintln ("error: " ++ fault.name ++ "\n\n" ++ usage)
    return fault.exitCode.toUInt32
  | .ok options =>
    let some sink ← openLog options | return 2
    sink (Session.openingRecord options.logLevel)
    let candidates := Session.settingsFiles options Settings.FileFormat.common
    match Settings.load? (← readTexts candidates) options.settings environment with
    | none => return Session.brokenOff.toUInt32
    | some loaded =>
      match Session.prepare loaded (← readTexts [options.file]) options with
      | .error hindrance =>
        sink hindrance.record
        return 2
      | .ok plan => carryOut options plan sink

end StationBench.Program

def main (arguments : List String) : IO UInt32 := StationBench.Program.run arguments
