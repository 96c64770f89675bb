import StationBench.Suite
import StationBench.Log
import StationBench.Files
/-!
# Loading suites

From the text of a fixture to a suite, and what a loader has to say about a suite that it accepts:
which steps refer to something that is not there and so cannot pass, and, where a test verifies in
the older manner, which delegate's decisions leave something open that the older manner required.
-/
namespace StationBench

/-- Why a fixture cannot be loaded. -/
inductive LoadFault
  | unreadable (path : String) (fault : FileFault)
  | defect (d : Json.Defect)
  | mismatch (m : Json.Mismatch)
  | invalid (f : SuiteFault)
deriving DecidableEq, Repr

namespace LoadFault

def ofJson : Json.Fault → LoadFault
  | .defect d => .defect d
  | .mismatch m => .mismatch m

def text : LoadFault → String
  | .unreadable path fault => "cannot read fixture " ++ path ++ ": " ++ fault.text
  | .defect d => "fixture is not a well-formed document: " ++ d.text
  | .mismatch m => "fixture schema error: " ++ m.text
  | .invalid f => "fixture schema error: " ++ f.text

end LoadFault

/-- The suite of a fixture's text. -/
def Suite.ofText (text : String) : Except LoadFault Suite := do
  let fixture ← (Json.read Fixture.read text).mapError .ofJson
  (Suite.ofFixture fixture).mapError .invalid

/-- The suite of a fixture's bytes, which have to be text. -/
def Suite.ofBytes (path : String) (bytes : ByteArray) : Except LoadFault Suite :=
  match String.fromUTF8? bytes with
  | some text => Suite.ofText text
  | none => .error (.unreadable path .invalidData)

/-- The suite of a fixture in a file, given how files are read. -/
def Suite.ofFile (read : String → Except FileFault String) (path : String) :
    Except LoadFault Suite := do
  Suite.ofText (← (read path).mapError (.unreadable path))

/-! ## Advice -/

/-- What a loader warns about. -/
inductive Advice
  | missingCard (test : String) (index : Nat) (registrantId : UInt64)
  | unboundButton (test : String) (index : Nat) (name : String)
  | unsupportedStep (test : String) (index : Nat) (type : String)
  /-- A delegate's decision without a penalty or a time. -/
  | openResolution (test : String) (index : Nat)
deriving DecidableEq, Repr

def Advice.text : Advice → String
  | .missingCard test index registrantId =>
    "Test '" ++ test ++ "' step " ++ Decimal.text index ++ " scans card " ++
      Decimal.text registrantId.toNat ++ " which is not in the suite"
  | .unboundButton test index name =>
    "Test '" ++ test ++ "' step " ++ Decimal.text index ++ " presses unbound button '" ++ name ++
      "'"
  | .unsupportedStep test index type =>
    "Test '" ++ test ++ "' step " ++ Decimal.text index ++ " has unsupported type '" ++ type ++
      "' and will fail"
  | .openResolution test index =>
    "Test '" ++ test ++ "' step " ++ Decimal.text index ++
      " omits penalty or value on DelegateResolve; older fixtures required both, " ++
      "absent overrides now keep the current result"

def Advice.record (a : Advice) : LogRecord := ⟨.warn, a.text⟩

namespace Suite

/-- What a step refers to and the suite does not have. -/
def dangling? (s : Suite) (test : String) (index : Nat) : Step → Option Advice
  | .scanCard id => if (s.cards.find? id).isNone then some (.missingCard test index id) else none
  | .button press =>
    if (s.buttons.find? press.name).isNone then some (.unboundButton test index press.name)
    else none
  | .unsupported type => some (.unsupportedStep test index type)
  | _ => none

/-- What a decision leaves open. -/
def openResolution? (test : String) (index : Nat) : Step → Option Advice
  | .delegateResolve r =>
    if r.penalty.isNone || r.value.isNone then some (.openResolution test index) else none
  | _ => none

/-- The advice that a rule gives on the steps of all tests, in their order. -/
def adviseSteps (s : Suite) (rule : String → Nat → Step → Option Advice) : List Advice :=
  s.tests.flatMap fun t => t.steps.zipIdx.filterMap fun (step, index) => rule t.name index step

/-- Whether any test verifies in the older manner. -/
def isLegacy (s : Suite) : Bool := s.tests.any fun t => t.steps.any Step.isLegacy

/-- All advice on a suite. -/
def advice (s : Suite) : List Advice :=
  s.adviseSteps s.dangling? ++ if s.isLegacy then s.adviseSteps openResolution? else []

end Suite

end StationBench
