import StationBench.Station.Snapshot
import StationBench.Button
import StationBench.Fault
/-!
# The station

The state of one timing station and what can be done to it. `Station.idle`, in which every test
starts, has no card, no time and no call pending. What may fail, or may send a message, is an
`Operation` on a `Line`: the station and all that it sent. Its checks, its changes and its messages
take effect one after another, so that an operation that fails leaves whatever it did before it
failed.
-/
namespace StationBench

structure Station where
  scannedCard : Option Card := none
  activeGroup : Option Group := none
  inspectionActive : Bool := false
  solveTime : Option Millis := none
  /-- A penalty that was set; none reads as no penalty. -/
  penalty : Option Penalty := none
  delegatePending : Bool := false
  lastSent : Option Message := none
  lastSnapshot : Option Snapshot := none
deriving DecidableEq, Repr

namespace Station

/-- The state before anything happened. -/
def idle : Station := {}

/-- The penalty in effect. -/
def effectivePenalty (s : Station) : Penalty := s.penalty.getD .none

/-- A time is taken: it ends inspection and carries no penalty yet. -/
def recordTime (s : Station) (ms : Millis) : Station :=
  { s with solveTime := some ms, penalty := none, inspectionActive := false }

def requireTime (s : Station) : Except StepFault Millis :=
  match s.solveTime with
  | some t => .ok t
  | none => .error (.precondition .noSolveTime)

def requireCard (s : Station) : Except StepFault Unit :=
  if s.scannedCard.isSome then .ok () else .error (.precondition .noCardScanned)

/-- What can be seen of the station. -/
def snapshot (s : Station) : Snapshot where
  scannedCard := s.scannedCard
  groupId := s.activeGroup.map Group.groupId
  secondaryText := s.activeGroup.map Group.secondaryText
  inspectionActive := s.inspectionActive
  solveTime := s.solveTime
  penalty := s.effectivePenalty
  delegatePending := s.delegatePending
  lastSent := s.lastSent

/-- Keeps the current snapshot for a later comparison. -/
def takeSnapshot (s : Station) : Station := { s with lastSnapshot := some s.snapshot }

/-! ## Operations -/

/-- A station and all that it sent, in order. -/
structure Line where
  station : Station
  sent : List Message := []
deriving DecidableEq, Repr

/-- What is done to a station that may fail: the changes made before a fault stay. -/
abbrev Operation (α : Type) : Type := ExceptT StepFault (StateM Line) α

namespace Operation

/-- The station as it is now. -/
def look : Operation Station := return (← get).station

def change (f : Station → Station) : Operation Unit :=
  modify fun l => { l with station := f l.station }

/-- Sends a message, which is the last one from then on. -/
def send (m : Message) : Operation Unit := do
  modify fun l => { l with sent := l.sent ++ [m] }
  change fun s => { s with lastSent := some m }

/-- A competitor signs on. The group, which is the one called up, decides whether inspection
starts. -/
def scan (card : Card) (group : Option Group) : Operation Unit := do
  if !card.canCompete then throw (.invalidCard card.registrantId)
  change fun s => { s with scannedCard := some card }
  change fun s => { s with activeGroup := group }
  change fun s => { s with inspectionActive := (group.map Group.useInspection).getD false }

/-- A button is released. -/
def press : ButtonAction → Operation Unit
  | .submit => do
    ofExcept (← look).requireCard
    let time ← ofExcept (← look).requireTime
    if (← look).delegatePending then throw (.precondition .delegatePending)
    send { time := some time, penalty := (← look).effectivePenalty, delegate := false }
  | .penalty => do
    let _ ← ofExcept (← look).requireTime
    change fun s => { s with penalty := some s.effectivePenalty.cycle }
  | .delegate => do
    let time ← ofExcept (← look).requireTime
    send { time := some time, penalty := (← look).effectivePenalty, delegate := true }
    change fun s => { s with delegatePending := true }
  | .inspection => change fun s => { s with inspectionActive := !s.inspectionActive }
  | .clear => do
    change fun s => { s with solveTime := none }
    change fun s => { s with penalty := none }

/-- A delegate decides. What the delegate leaves open stays as the station has it, and the message
goes out without a time if there is none. -/
def resolve (shouldScanCards : Bool) (penalty : Option Penalty) (value : Option Millis) :
    Operation Message := do
  if shouldScanCards then ofExcept (← look).requireCard
  let time := value.or (← look).solveTime
  let penalty := penalty.getD (← look).effectivePenalty
  change fun s => { s with solveTime := time }
  change fun s => { s with penalty := some penalty }
  change fun s => { s with delegatePending := false }
  let message : Message := { time, penalty, delegate := true }
  send message
  return message

/-- Does an operation on a station that has sent nothing: the result, or the fault, and the station
and what it sent afterwards. -/
def on {α : Type} (op : Operation α) (s : Station) : Except StepFault α × Line :=
  op.run.run { station := s }

end Operation

/-! ## What came of an operation -/

/-- A station after an operation, and the message it sent, if any. -/
structure Response where
  station : Station
  sent : Option Message := none
deriving DecidableEq, Repr

/-- The station after a competitor signed on, or the fault. -/
def scan (s : Station) (card : Card) (group : Option Group) : Except StepFault Station :=
  let (result, line) := (Operation.scan card group).on s
  result.map fun _ => line.station

/-- The response to a button, or the fault. -/
def press (s : Station) (action : ButtonAction) : Except StepFault Response :=
  let (result, line) := (Operation.press action).on s
  result.map fun _ => { station := line.station, sent := line.sent.head? }

/-- The station after a delegate decided, and what it sent, or the fault. -/
def resolve (s : Station) (shouldScanCards : Bool) (penalty : Option Penalty)
    (value : Option Millis) : Except StepFault (Station × Message) :=
  let (result, line) := (Operation.resolve shouldScanCards penalty value).on s
  result.map fun message => (line.station, message)

end Station

end StationBench
