import StationBench.Report
/-!
# Reports as JSON

The form in which reports are saved. What a test report has nothing to say about is left out: the
seed and the dump if they are absent, the steps and the failures if there are none.
-/
namespace StationBench

def StepRecord.toJson (r : StepRecord) : Json.Value :=
  .object
    [("index", .ofNat r.index), ("stepType", .string r.type), ("ok", .bool r.ok),
      ("message", .string r.message)]

def Failure.toJson (f : Failure) : Json.Value :=
  .object
    [("stepIndex", .ofNat f.index), ("stepType", .string f.type), ("error", f.fault.toJson)]

/-- A member for a value that is present. -/
def presentMember {α : Type} (key : String) (write : α → Json.Value) :
    Option α → List (String × Json.Value)
  | some a => [(key, write a)]
  | none => []

/-- A member for a list that is not empty. -/
def filledMember {α : Type} (key : String) (write : α → Json.Value) :
    List α → List (String × Json.Value)
  | [] => []
  | l => [(key, .ofList write l)]

def TestReport.toJson (t : TestReport) : Json.Value :=
  .object <|
    [("name", .string t.name), ("status", .string t.status.name)] ++
    presentMember "seed" .ofUInt64 t.seed ++
    [("clockMs", .ofUInt64 t.clock)] ++
    filledMember "steps" StepRecord.toJson t.steps ++
    filledMember "failures" Failure.toJson t.failures ++
    presentMember "dump" StateDump.toJson t.dump

namespace RunReport

def members (r : RunReport) : List (String × Json.Value) :=
  [("seed", .ofUInt64 r.seed), ("interrupted", .bool r.interrupted), ("passed", .ofNat r.passed),
    ("failed", .ofNat r.failed), ("skipped", .ofNat r.skipped),
    ("tests", .ofList TestReport.toJson r.tests)]

def toJson (r : RunReport) : Json.Value := .object r.members

/-- The text of a saved report, which says first when the run was started, if that is known. -/
def savedText (r : RunReport) (startedAt : Option String := none) : String :=
  (Json.Value.object (presentMember "startedAt" .string startedAt ++ r.members)).pretty

end RunReport

end StationBench
