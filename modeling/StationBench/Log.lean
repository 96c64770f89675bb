/-!
# Log records

What a program tells its log: a severity and a text. A log level lets through the records of its
own severity and of graver ones. When a record was told and where it comes from stands in its mark
in the file of the log. What is told only to find mistakes in the program is left out.
-/
namespace StationBench

inductive Severity
  | error
  | warn
  | info
deriving DecidableEq, Repr

def Severity.name : Severity → String
  | .error => "ERROR"
  | .warn => "WARN"
  | .info => "INFO"

structure LogRecord where
  severity : Severity
  text : String
deriving DecidableEq, Repr

/-- A record as it stands in a file, after a mark that tells its time and where it comes from. -/
def LogRecord.written (mark : String) (r : LogRecord) : String :=
  mark ++ "[" ++ r.severity.name ++ "] " ++ r.text ++ "\n"

/-- The marks of the records in the file of a log, by the number of records before. -/
structure Marks where
  mark : Nat → LogRecord → String

/-- One mark for all records. -/
instance : Coe String Marks := ⟨fun mark => ⟨fun _ _ => mark⟩⟩

/-- Records as they stand in the file of a log after a number of others. -/
def Marks.lines (marks : Marks) : (before : Nat) → List LogRecord → String
  | _, [] => ""
  | before, r :: rest => r.written (marks.mark before r) ++ marks.lines (before + 1) rest

/-- How much of a log is written. -/
inductive LogLevel
  | off
  | error
  | warn
  | info
  | debug
  | trace
deriving DecidableEq, Repr

namespace LogLevel

def all : List LogLevel := [off, error, warn, info, debug, trace]

def name : LogLevel → String
  | .off => "Off"
  | .error => "Error"
  | .warn => "Warn"
  | .info => "Info"
  | .debug => "Debug"
  | .trace => "Trace"

/-- The name of a level as a log shows it. -/
def label (l : LogLevel) : String := l.name.toUpper

/-- The level of a name, whatever its case. -/
def ofName? (s : String) : Option LogLevel :=
  all.find? fun l => l.name.toList.map Char.toLower = s.toList.map Char.toLower

/-- Whether a level lets a record of a severity through. -/
def admits : LogLevel → Severity → Bool
  | .off, _ => false
  | .error, .error => true
  | .error, _ => false
  | .warn, .info => false
  | .warn, _ => true
  | .info, _ | .debug, _ | .trace, _ => true

/-- The records that a level lets through. -/
def filter (l : LogLevel) (records : List LogRecord) : List LogRecord :=
  records.filter fun r => l.admits r.severity

end LogLevel

end StationBench
