import StationBench.Message
/-!
# Steps

The vocabulary of tests. Two generations of documents share it: the older verifies with
`verifySolveTime` and `verifyDelegateSent`, the newer with `verifySend` and `verifySnapshot`. A
step of a type that nobody knows is kept under its type and fails when it is its turn.
-/
namespace StationBench

/-- A button that is held for a while. -/
structure ButtonPress where
  name : String
  /-- For how long, in milliseconds. -/
  time : Millis
deriving DecidableEq, Repr

/-- A delegate's decision. -/
structure Resolution where
  shouldScanCards : Bool
  penalty : Option Penalty
  /-- A solve time in place of the one taken. -/
  value : Option Millis
deriving DecidableEq, Repr

/-- What a verification asks for; what is absent is not compared. -/
structure Expectation where
  time : Option Millis
  penalty : Option Penalty
  delegate : Option Bool
deriving DecidableEq, Repr

inductive Step
  | sleep (ms : Millis)
  | scanCard (registrantId : UInt64)
  | snapshot
  | resetState
  /-- A time, or none for a random one. -/
  | solveTime (ms : Option Millis)
  | solveTimeRng
  | button (press : ButtonPress)
  | delegateResolve (resolution : Resolution)
  | verifySolveTime (expected : Expectation)
  | verifySend (expected : Expectation)
  | verifyDelegateSent
  /-- The fields to compare, or none for all. -/
  | verifySnapshot (fields : Option (List String))
  | unsupported (type : String)
deriving DecidableEq, Repr

def ButtonPress.toJson (p : ButtonPress) : Json.Value :=
  .object [("name", .string p.name), ("time", .ofUInt64 p.time)]

def Resolution.toJson (r : Resolution) : Json.Value :=
  .object
    [("shouldScanCards", .bool r.shouldScanCards), ("penalty", .ofOption Penalty.toJson r.penalty),
      ("value", .ofOption .ofUInt64 r.value)]

def Expectation.toJson (e : Expectation) : Json.Value :=
  .object
    [("time", .ofOption .ofUInt64 e.time), ("penalty", .ofOption Penalty.toJson e.penalty),
      ("delegate", .ofOption .bool e.delegate)]

namespace Step

/-- The type that a step is written with. -/
def type : Step → String
  | .sleep _ => "Sleep"
  | .scanCard _ => "ScanCard"
  | .snapshot => "Snapshot"
  | .resetState => "ResetState"
  | .solveTime _ => "SolveTime"
  | .solveTimeRng => "SolveTimeRng"
  | .button _ => "Button"
  | .delegateResolve _ => "DelegateResolve"
  | .verifySolveTime _ => "VerifySolveTime"
  | .verifySend _ => "VerifySend"
  | .verifyDelegateSent => "VerifyDelegateSent"
  | .verifySnapshot _ => "VerifySnapshot"
  | .unsupported type => type

/-- Whether the type of a step is one that is known. -/
def isSupported : Step → Bool
  | .unsupported _ => false
  | _ => true

/-- Whether a step verifies in the manner of the older generation. -/
def isLegacy : Step → Bool
  | .verifySolveTime _ | .verifyDelegateSent => true
  | _ => false

/-- The data that a step is written with; those of an unsupported step are not kept. -/
def data : Step → Json.Value
  | .sleep ms => .ofUInt64 ms
  | .scanCard id => .ofUInt64 id
  | .solveTime ms => .ofOption .ofUInt64 ms
  | .button press => press.toJson
  | .delegateResolve resolution => resolution.toJson
  | .verifySolveTime expected | .verifySend expected => expected.toJson
  | .verifySnapshot fields => .ofOption (.ofList .string) fields
  | .snapshot | .resetState | .solveTimeRng | .verifyDelegateSent | .unsupported _ => .null

def toJson (s : Step) : Json.Value := .object [("type", .string s.type), ("data", s.data)]

end Step

end StationBench
