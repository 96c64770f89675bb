import StationBench.Bench
import StationBench.Station.Verify
/-!
# Executing steps

One step at the bench: its note, or its fault, and the bench afterwards. A step that may fail is an
`Act`, which hands on the bench as it stands when it fails: a button that was held before the
station refused what the button does stays held.
-/
namespace StationBench

/-- What a step did. -/
inductive Note
  | slept (ms : Millis)
  | scanned (card : Card)
  | stateReset
  | timeTaken (ms : Millis)
  | timeDrawn (ms : Millis)
  | pressed (press : ButtonPress) (action : ButtonAction)
  | resolved (message : Message)
  | timeMatches (time : Option Millis)
  | messageMatches (message : Message)
  | delegateSent (message : Message)
  | snapshotTaken (snapshot : Snapshot)
  | snapshotMatches (fields : Nat)
deriving DecidableEq, Repr

namespace Note

def text : Note → String
  | .slept ms => "slept " ++ Decimal.text ms.toNat ++ " ms"
  | .scanned card => "scanned " ++ card.name ++ " (" ++ card.wcaId ++ ")"
  | .stateReset => "state reset"
  | .timeTaken ms => "solve time " ++ Decimal.text ms.toNat ++ " ms"
  | .timeDrawn ms => "random solve time " ++ Decimal.text ms.toNat ++ " ms"
  | .pressed press action =>
    "pressed '" ++ press.name ++ "' (" ++ action.name ++ ") for " ++
      Decimal.text press.time.toNat ++ " ms"
  | .resolved message => "delegate resolved, sent " ++ message.text
  | .timeMatches time => "solve time matches " ++ Text.optionalNumber time
  | .messageMatches message => "sent message " ++ message.text ++ " matches"
  | .delegateSent message => "delegate message " ++ message.text ++ " sent"
  | .snapshotTaken snapshot =>
    "snapshot taken (card " ++
      Text.optionalNumber (snapshot.scannedCard.map Card.registrantId) ++ ", time " ++
      Text.optionalNumber snapshot.solveTime ++ ")"
  | .snapshotMatches fields => Decimal.text fields ++ " snapshot fields match"

end Note

namespace Bench

/-- The bench after a step, and what came of the step. -/
abbrev Outcome := Except StepFault Note × Bench

/-- What is done at a bench that may fail: what was done before a fault stays. -/
abbrev Act (α : Type) : Type := ExceptT StepFault (StateM Bench) α

/-- Has the station do something. The bench takes over the station and what it sent, whatever comes
of it. -/
def atStation {α : Type} (op : Station.Operation α) : Act α := ExceptT.mk do
  let b ← get
  let (result, line) := op.run.run { station := b.station, sent := b.outbox }
  set { b with station := line.station, outbox := line.sent }
  return result

def act (b : Bench) (a : Act Note) : Outcome := a.run.run b

def scan (b : Bench) (rig : Rig) (registrantId : UInt64) : Outcome :=
  b.act do
    let card ← ofExcept (rig.inventory.card registrantId)
    atStation (.scan card (groupFor rig.inventory.groups card))
    return .scanned card

/-- A time comes in. -/
def takeTime (b : Bench) (ms : Millis) : Outcome :=
  (.ok (.timeTaken ms), { b with station := b.station.recordTime ms })

/-- A random time comes in. -/
def drawTime (b : Bench) (rig : Rig) : Outcome :=
  let (ms, draws) := b.draws.next rig.range
  (.ok (.timeDrawn ms), { b with draws, station := b.station.recordTime ms })

/-- Holds a button, as far as the clock and the record of presses are concerned. -/
def hold (b : Bench) (press : ButtonPress) (action : ButtonAction) : Bench :=
  { b.wait press.time with
    presses := b.presses ++ [⟨press.name, action, b.clock.now, press.time⟩] }

/-- Holds a button; what it does happens when it is released. -/
def press (b : Bench) (rig : Rig) (press : ButtonPress) : Outcome :=
  b.act do
    let binding ← ofExcept (rig.inventory.binding press.name)
    modify fun b => b.hold press binding.action
    atStation (.press binding.action)
    return .pressed press binding.action

def resolve (b : Bench) (r : Resolution) : Outcome :=
  b.act do
    let message ← atStation (.resolve r.shouldScanCards r.penalty r.value)
    return .resolved message

/-- Executes a step. -/
def execute (b : Bench) (rig : Rig) : Step → Outcome
  | .sleep ms => (.ok (.slept ms), b.wait ms)
  | .scanCard registrantId => b.scan rig registrantId
  | .snapshot =>
    (.ok (.snapshotTaken b.station.snapshot), { b with station := b.station.takeSnapshot })
  | .resetState => (.ok .stateReset, { b with station := .idle })
  | .solveTime (some ms) => b.takeTime ms
  | .solveTime none | .solveTimeRng => b.drawTime rig
  | .button press => b.press rig press
  | .delegateResolve resolution => b.resolve resolution
  | .verifySolveTime expected => (.timeMatches <$> b.station.verifySolveTime expected, b)
  | .verifySend expected => (.messageMatches <$> b.station.verifySend expected, b)
  | .verifyDelegateSent => (.delegateSent <$> b.station.verifyDelegateSent, b)
  | .verifySnapshot fields => (.snapshotMatches <$> b.station.verifySnapshot fields, b)
  | .unsupported type => (.error (.unsupportedStep type), b)

end Bench

end StationBench
