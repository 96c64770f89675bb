import StationBench.Json.Printer
import StationBench.Json.Record
/-!
# Faults of steps

Why a step of a test fails. A fault fails the test it happens in and goes into its report, where
it is written under a tag with whatever it names.
-/
namespace StationBench

/-- What a step needed of the station and did not find. -/
inductive Precondition
  | noCardScanned
  | noSolveTime
  | noSnapshot
  | delegatePending
deriving DecidableEq, Repr

namespace Precondition

def name : Precondition → String
  | .noCardScanned => "NoCardScanned"
  | .noSolveTime => "NoSolveTime"
  | .noSnapshot => "NoSnapshot"
  | .delegatePending => "DelegatePending"

def ofName? (s : String) : Option Precondition :=
  [noCardScanned, noSolveTime, noSnapshot, delegatePending].find? (·.name = s)

def text : Precondition → String
  | .noCardScanned => "no card has been scanned"
  | .noSolveTime => "no solve time is available"
  | .noSnapshot => "no snapshot has been taken"
  | .delegatePending => "a delegate call is still pending"

end Precondition

/-- Why a step fails. -/
inductive StepFault
  | unknownCard (registrantId : UInt64)
  | unknownButton (name : String)
  | unsupportedStep (stepType : String)
  /-- The card may not compete. -/
  | invalidCard (registrantId : UInt64)
  | precondition (reason : Precondition)
  | verification (field : String) (expected actual : Json.Value)
  | capture (reason : String)
deriving DecidableEq, Repr

namespace StepFault

/-- The tag that a fault is written under. -/
def tag : StepFault → String
  | .unknownCard _ => "UnknownCard"
  | .unknownButton _ => "UnknownButton"
  | .unsupportedStep _ => "UnsupportedStep"
  | .invalidCard _ => "InvalidCard"
  | .precondition _ => "Precondition"
  | .verification _ _ _ => "Verification"
  | .capture _ => "Capture"

/-- The name of a fault's kind, by which failures are told apart. -/
def kind : StepFault → String
  | .unknownCard _ => "UnknownCard"
  | .unknownButton _ => "UnknownButton"
  | .unsupportedStep _ => "UnsupportedStep"
  | .invalidCard _ => "InvalidCard"
  | .precondition _ => "Precondition"
  | .verification _ _ _ => "Verification"
  | .capture _ => "Capture"

def text : StepFault → String
  | .unknownCard id => "card " ++ Decimal.text id.toNat ++ " is not present in the suite"
  | .unknownButton name => "button '" ++ name ++ "' is not bound"
  | .unsupportedStep stepType => "step type '" ++ stepType ++ "' is not supported"
  | .invalidCard id => "card " ++ Decimal.text id.toNat ++ " cannot compete"
  | .precondition reason => "precondition failed: " ++ reason.text
  | .verification field expected actual =>
    "verification of '" ++ field ++ "' failed: expected " ++ expected.compact ++ ", actual " ++
      actual.compact
  | .capture reason => "cannot capture device state: " ++ reason

/-- What a fault names, besides its kind. -/
def context : StepFault → List (String × Json.Value)
  | .unknownCard id => [("registrantId", .ofUInt64 id)]
  | .unknownButton name => [("name", .string name)]
  | .unsupportedStep stepType => [("stepType", .string stepType)]
  | .invalidCard id => [("registrantId", .ofUInt64 id)]
  | .precondition reason => [("reason", .string reason.name)]
  | .verification field expected actual =>
    [("field", .string field), ("expected", expected), ("actual", actual)]
  | .capture reason => [("reason", .string reason)]

def toJson (f : StepFault) : Json.Value := .object (("kind", .string f.tag) :: f.context)

end StepFault

end StationBench
