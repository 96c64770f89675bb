import StationBench.Clock
import StationBench.Draw.TimeRange
/-!
# Settings

What a run can be told besides its suite. Every setting has a default. Settings are a record of
optional fields in a document (`Settings.read`); loading them from several layers is in
`StationBench.Settings.Layers`.
-/
namespace StationBench

structure Settings where
  seed : UInt64 := 0x5EED
  /-- Whether the tests get different seeds, unless they have their own. -/
  perTestSeed : Bool := true
  continueOnFailure : Bool := false
  realtime : Bool := false
  timeout : Option Millis := none
  rngMin : Millis := 5000
  rngMax : Millis := 60000
  /-- The file that the report is saved to. -/
  report : Option String := none
  /-- The names of the tests to run; none stands for all. -/
  only : List String := []
deriving DecidableEq, Repr

namespace Settings

def pacing (s : Settings) : Pacing := if s.realtime then .realtime else .compressed

/-- The range of random times, whichever bound is the greater. -/
def range (s : Settings) : TimeRange := .between s.rngMin s.rngMax

/-- Whether a test of a name is to run. -/
def selects (s : Settings) (name : String) : Bool := s.only.isEmpty || s.only.contains name

def reader : Json.RecordReader Json.Outline Settings :=
  let d : Settings := {}
  Settings.mk <$> .defaulted "seed" Json.Reader.uint64 d.seed
    <*> .defaulted "per_test_seed" Json.Reader.bool d.perTestSeed
    <*> .defaulted "continue_on_failure" Json.Reader.bool d.continueOnFailure
    <*> .defaulted "realtime" Json.Reader.bool d.realtime
    <*> .defaulted "timeout" (Json.Reader.optional Duration.read) d.timeout
    <*> .defaulted "rng_min_ms" Json.Reader.uint64 d.rngMin
    <*> .defaulted "rng_max_ms" Json.Reader.uint64 d.rngMax
    <*> .defaulted "report" (Json.Reader.optional (Json.Reader.text "path string")) d.report
    <*> .defaulted "only" (Json.Reader.list Json.Reader.string) d.only

def read : Json.Reader Settings := reader.outline "Settings"

/-- Reads settings from their JSON text. -/
def ofText (text : String) : Except Json.Fault Settings := Json.read read text

end Settings

end StationBench
