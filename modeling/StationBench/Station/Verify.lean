import StationBench.Station
import StationBench.Step
/-!
# Verification

What a verification compares, and the fault it reports: the first thing that is not as expected,
with what was expected and what is there. Results are compared in the order time, penalty and
delegate; snapshots in the order of their fields. A verification only looks at the station.
-/
namespace StationBench

/-- A result as it is compared, be it the station's own or that of a message. -/
structure Observed where
  time : Option Millis
  penalty : Penalty
  delegate : Bool
deriving DecidableEq, Repr

def Station.observed (s : Station) : Observed :=
  ⟨s.solveTime, s.effectivePenalty, s.delegatePending⟩

def Message.observed (m : Message) : Observed := ⟨m.time, m.penalty, m.delegate⟩

/-- The fault of a field that is expected to be something else. -/
def fieldMismatch? {α : Type} [DecidableEq α] (field : String) (write : α → Json.Value)
    (expected : Option α) (actual : α) : Option StepFault :=
  match expected with
  | some e => if e = actual then none else some (.verification field (write e) (write actual))
  | none => none

/-- The first mismatch of an observed result. -/
def Expectation.mismatch? (e : Expectation) (o : Observed) : Option StepFault :=
  (fieldMismatch? "time" (.ofOption .ofUInt64) (e.time.map some) o.time).or <|
    (fieldMismatch? "penalty" Penalty.toJson e.penalty o.penalty).or <|
      fieldMismatch? "delegate" .bool e.delegate o.delegate

/-- The fault of a field in which a later snapshot differs from a stored one. -/
def Snapshot.fieldMismatch? (stored current : Snapshot) (field : String) : Option StepFault :=
  match stored.capture.member? field, current.capture.member? field with
  | some expected, some actual =>
    if expected = actual then none else some (.verification field expected actual)
  | _, _ => some (.capture ("snapshot has no field '" ++ field ++ "'"))

/-- The fields that are compared: those asked for, or all. -/
def Snapshot.selected (fields : Option (List String)) : List String :=
  Snapshot.fieldNames.filter fun name => fields.all (·.contains name)

namespace Station

/-- Passes with a value if no fault was found. -/
def verdict {α : Type} (fault : Option StepFault) (a : α) : Except StepFault α :=
  match fault with
  | some fault => .error fault
  | none => .ok a

/-- Verifies the result at the station, and hands back its time. -/
def verifySolveTime (s : Station) (e : Expectation) : Except StepFault (Option Millis) :=
  verdict (e.mismatch? s.observed) s.solveTime

/-- Verifies the last message, and hands it back. -/
def verifySend (s : Station) (e : Expectation) : Except StepFault Message :=
  match s.lastSent with
  | some m => verdict (e.mismatch? m.observed) m
  | none => .error (.verification "lastSent" e.toJson.ordered .null)

/-- Verifies that the last message is a delegate's, and hands it back. -/
def verifyDelegateSent (s : Station) : Except StepFault Message :=
  match s.lastSent with
  | some m => verdict (fieldMismatch? "delegate" .bool (some true) m.delegate) m
  | none => .error (.verification "lastSent" (.object [("delegate", .bool true)]) .null)

/-- Verifies the station against the snapshot it keeps, and hands back the number of fields. -/
def verifySnapshot (s : Station) (fields : Option (List String)) : Except StepFault Nat :=
  match s.lastSnapshot with
  | some stored =>
    verdict ((Snapshot.selected fields).findSome? (stored.fieldMismatch? s.snapshot))
      (Snapshot.selected fields).length
  | none => .error (.precondition .noSnapshot)

end Station

end StationBench
