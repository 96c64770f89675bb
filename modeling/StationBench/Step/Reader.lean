import StationBench.Step
import StationBench.Json.Printer
/-!
# Reading steps

A step is a record of a type and free-form data. `Step.ofData` finds out what the type makes of
the data: twelve types ask for data of a certain form or for none, any other type takes what
there is.
-/
namespace StationBench

def ButtonPress.ofValue : Json.Value → Except Json.Fault ButtonPress :=
  (ButtonPress.mk <$> .required "name" Json.Value.readString
    <*> .defaulted "time" Json.Value.readUInt64 0
    : Json.RecordReader Json.Value ButtonPress).closedValue "ButtonPress"

def Resolution.ofValue : Json.Value → Except Json.Fault Resolution :=
  (Resolution.mk <$> .required "shouldScanCards" Json.Value.readBool
    <*> .defaulted "penalty" (Json.Value.readOptional Penalty.ofValue) none
    <*> .defaulted "value" (Json.Value.readOptional Json.Value.readUInt64) none
    : Json.RecordReader Json.Value Resolution).closedValue "DelegateResolution"

def Expectation.ofValue : Json.Value → Except Json.Fault Expectation :=
  (Expectation.mk <$> .defaulted "time" (Json.Value.readOptional Json.Value.readUInt64) none
    <*> .defaulted "penalty" (Json.Value.readOptional Penalty.ofValue) none
    <*> .defaulted "delegate" (Json.Value.readOptional Json.Value.readBool) none
    : Json.RecordReader Json.Value Expectation).closedValue "Expectation"

namespace Step

/-- Reads the data that a type asks for. -/
def withData {α : Type} (type : String) (read : Json.Value → Except Json.Fault α)
    (make : α → Step) (data : Json.Value) : Except Json.Fault Step :=
  match read data with
  | .ok a => .ok (make a)
  | .error fault => Json.throwBroken ("invalid data for step '" ++ type ++ "': " ++ fault.text)

/-- Checks that a type that asks for no data has none. -/
def withoutData (step : Step) (data : Json.Value) : Except Json.Fault Step :=
  match data with
  | .null => .ok step
  | data =>
    Json.throwBroken ("step '" ++ step.type ++ "' takes no data, found " ++ data.compact)

/-- The step of a type and its data. -/
def ofData (type : String) (data : Json.Value) : Except Json.Fault Step :=
  match type with
  | "Sleep" => withData type Json.Value.readUInt64 sleep data
  | "ScanCard" => withData type Json.Value.readUInt64 scanCard data
  | "Snapshot" => withoutData snapshot data
  | "ResetState" => withoutData resetState data
  | "SolveTime" => withData type (Json.Value.readOptional Json.Value.readUInt64) solveTime data
  | "SolveTimeRng" => withoutData solveTimeRng data
  | "Button" => withData type ButtonPress.ofValue button data
  | "DelegateResolve" => withData type Resolution.ofValue delegateResolve data
  | "VerifySolveTime" => withData type Expectation.ofValue verifySolveTime data
  | "VerifySend" => withData type Expectation.ofValue verifySend data
  | "VerifyDelegateSent" => withoutData verifyDelegateSent data
  | "VerifySnapshot" =>
    withData type (Json.Value.readOptional (Json.Value.readList Json.Value.readString))
      verifySnapshot data
  | type => .ok (unsupported type)

/-- A step in a document: a type, and data that may be left out. -/
def read : Json.Reader Step := fun o => do
  let (type, data) ←
    (Prod.mk <$> .required "type" Json.Reader.string
      <*> .defaulted "data" Json.Reader.value .null
      : Json.RecordReader Json.Outline (String × Json.Value)).outline "RawStep" o
  ofData type data

/-- Reads a step from its JSON text. -/
def ofText (text : String) : Except Json.Fault Step := Json.read read text

end Step

end StationBench
