import StationBench.Log
import StationBench.Settings
/-!
# Options of the command line

What a command line asks for once it is understood, and how its options change settings: an option
that is given wins, and a switch can only turn something on.
-/
namespace StationBench

structure Options where
  /-- The file of the fixture. -/
  file : String
  /-- The settings file. -/
  settings : Option String := none
  logging : Option LogLevel := none
  logFile : Option String := none
  seed : Option UInt64 := none
  continueOnFailure : Bool := false
  realtime : Bool := false
  report : Option String := none
  only : List String := []
deriving DecidableEq, Repr

namespace Options

/-- The level of the log. -/
def logLevel (o : Options) : LogLevel := o.logging.getD .info

/-- Settings with the options on top of them. -/
def apply (o : Options) (s : Settings) : Settings :=
  { s with
    seed := o.seed.getD s.seed
    continueOnFailure := o.continueOnFailure || s.continueOnFailure
    realtime := o.realtime || s.realtime
    report := o.report.or s.report
    only := if o.only.isEmpty then s.only else o.only }

end Options

end StationBench
