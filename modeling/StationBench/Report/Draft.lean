import StationBench.Report
/-!
# Drafts of test reports

A test report that is put together piece by piece. It needs a name and a status; the rest is empty
unless it is given.
-/
namespace StationBench

structure ReportDraft where
  name : Option String := none
  status : Option Status := none
  seed : Option UInt64 := none
  clock : Option Millis := none
  steps : Option (List StepRecord) := none
  failures : Option (List Failure) := none
  dump : Option StateDump := none
deriving DecidableEq, Repr

/-- A field that a draft has to have and does not. -/
inductive MissingField
  | name
  | status
deriving DecidableEq, Repr

def MissingField.text : MissingField → String
  | .name => "`name` must be initialized"
  | .status => "`status` must be initialized"

/-- The report of a draft. -/
def ReportDraft.build (d : ReportDraft) : Except MissingField TestReport :=
  match d.name, d.status with
  | none, _ => .error .name
  | some _, none => .error .status
  | some name, some status =>
    .ok {
      name, status
      seed := d.seed
      clock := d.clock.getD 0
      steps := d.steps.getD []
      failures := d.failures.getD []
      dump := d.dump }

end StationBench
