import StationBench.CommandLine.Arguments
import StationBench.Report.Json
import StationBench.Run
import StationBench.Settings.Loading
import StationBench.Suite.Loading
/-!
# Sessions

One call of the program from its command line to its exit code. A session reads its settings and
its fixture, runs the suite, saves the report if it is asked to, and lists the failed steps at the
end of its log. The exit code is 0 if all tests passed, 1 if not, and 2 if it never came to that.
-/
namespace StationBench

namespace Session

/-! ## Before the run -/

/-- The first record of a log. -/
def openingRecord (level : LogLevel) : LogRecord :=
  ⟨.info, "Logging level " ++ level.label ++ " enabled"⟩

/-- What a session runs. -/
structure Plan where
  suite : Suite
  settings : Settings

/-- Why there is nothing to run. -/
inductive Hindrance
  | settings (fault : SettingsFault)
  | fixture (path : String) (fault : LoadFault)
deriving DecidableEq, Repr

def Hindrance.record : Hindrance → LogRecord
  | .settings fault => ⟨.error, "Failed to load settings " ++ fault.text⟩
  | .fixture path fault => ⟨.error, "Failed to load fixture " ++ path ++ ": " ++ fault.text⟩

/-- Puts the options on top of the settings that were loaded, and loads the suite. -/
def prepare (loaded : Except SettingsFault Settings) (read : String → Except FileFault String)
    (options : Options) : Except Hindrance Plan := do
  let settings ← loaded.mapError .settings
  let suite ← (Suite.ofFile read options.file).mapError (.fixture options.file)
  return { suite, settings := options.apply settings }

/-- The files among which the settings are looked for. -/
def settingsFiles (options : Options) (formats : List Settings.FileFormat) : List String :=
  options.settings.toList.flatMap fun name => (Settings.candidates formats name).map Prod.fst

/-- What a session has to say about a suite that was loaded. -/
def loadRecords (path : String) (suite : Suite) : List LogRecord :=
  suite.advice.map Advice.record ++
    [⟨.info, "Loaded fixture " ++ path ++ " with " ++ Decimal.text suite.tests.length ++
      " tests, " ++ Decimal.text suite.cards.size ++ " cards, " ++
      Decimal.text suite.buttons.size ++ " buttons"⟩]

/-! ## After the run -/

/-- Whether the report could be saved. -/
def saveRecord (path : String) : Option FileFault → LogRecord
  | none => ⟨.info, "Report written to " ++ path⟩
  | some fault => ⟨.error, "Cannot write report to " ++ path ++ ": " ++ fault.text⟩

/-- One record for every failed step. -/
def failureRecords (report : RunReport) : List LogRecord :=
  report.tests.flatMap fun t => t.failures.map (Failure.error t.name)

def exitCode (report : RunReport) : Nat := if report.allPassed then 0 else 1

/-! ## The log -/

/-- A log while it is written. Its records may go to a file, which is there for everybody else
to read and write. -/
structure Journal where
  level : LogLevel
  marks : Marks
  place? : Option Place := none
  /-- The records that the level let through. -/
  records : List LogRecord := []
  files : Files

namespace Journal

def noteAll (j : Journal) (records : List LogRecord) : Journal :=
  let records := j.level.filter records
  { j with
    records := j.records ++ records
    files := match j.place? with
      | none => j.files
      | some place => j.files.append place (j.marks.lines j.records.length records) }

def note (j : Journal) (r : LogRecord) : Journal := j.noteAll [r]

end Journal

/-- The log of a session, opened. -/
def openLog (options : Options) (marks : Marks) (files : Files) : Except FileFault Journal := do
  match options.logFile with
  | none => return { level := options.logLevel, marks, files }
  | some name =>
    let (place, files) ← files.openToAppend name
    return { level := options.logLevel, marks, place? := some place, files }

/-! ## A whole session -/

/-- What is left of a session. -/
structure Outcome where
  exitCode : Nat
  /-- The records that the log level let through. -/
  log : List LogRecord := []
  files : Files

/-- A session at its end. -/
def Outcome.ofJournal (exitCode : Nat) (j : Journal) : Outcome :=
  { exitCode, log := j.records, files := j.files }

/-- Saves the report of a run that was started at a moment, if that is asked for. -/
def saveReport (settings : Settings) (report : RunReport) (startedAt : Option String)
    (j : Journal) : Journal :=
  match settings.report with
  | none => j
  | some path =>
    let saving := j.files.save path (report.savedText startedAt)
    { j with files := saving.files }.note (saveRecord path saving.fault?)

/-- Runs a plan. -/
def carryOut (options : Options) (plan : Plan) (readings : Nat → Reading)
    (startedAt : Option String) (j : Journal) : Outcome :=
  let run := plan.suite.run plan.settings readings
  let j := j.noteAll (loadRecords options.file plan.suite ++ run.records)
  let j := saveReport plan.settings run.report startedAt j
  .ofJournal (exitCode run.report) (j.noteAll (failureRecords run.report))

/-- The exit code of a session that loading the settings breaks off. -/
def brokenOff : Nat := 101

/-- A session with options that were understood and a log that could be opened. -/
def proceed (options : Options) (environment : List (String × String))
    (readings : Plan → Nat → Reading) (startedAt : Option String)
    (formats : List Settings.FileFormat) (j : Journal) : Outcome :=
  let j := j.note (openingRecord options.logLevel)
  match Settings.load? j.files.readKept options.settings environment formats with
  | none => .ofJournal brokenOff j
  | some loaded =>
    match prepare loaded j.files.read options with
    | .error hindrance => .ofJournal 2 (j.note hindrance.record)
    | .ok plan => carryOut options plan (readings plan) startedAt j

/-- A session, given its arguments, its environment, the marks in the file of its log, the readings
that the run of a plan takes, its files, when the run starts, and the ways to write settings
files. -/
def run (arguments : List String) (environment : List (String × String)) (marks : Marks)
    (readings : Plan → Nat → Reading) (files : Files) (startedAt : Option String := none)
    (formats : List Settings.FileFormat := Settings.FileFormat.common) : Outcome :=
  match Options.ofArguments arguments environment with
  | .error fault => { exitCode := fault.exitCode, files }
  | .ok options =>
    match openLog options marks files with
    | .ok j => proceed options environment readings startedAt formats j
    | .error _ => { exitCode := 2, files }

end Session

end StationBench
