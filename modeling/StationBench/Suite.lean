import StationBench.Step.Reader
import StationBench.Button
import StationBench.Roster
import StationBench.Station.Snapshot
import StationBench.Fault
/-!
# Suites

A suite is a set of tests with the cards, groups and buttons they refer to. It is made of a
fixture, the document as it is written, by `Suite.ofFixture`, which refuses a fixture that is at
odds with itself and names the first such place: groups first, then cards by number, buttons by
name, and the fields that tests compare.
-/
namespace StationBench

structure Test where
  name : String
  /-- The time that passes between one step and the next. -/
  sleepBetween : Millis
  /-- A seed in place of the one that the run gives the test. -/
  seed : Option UInt64
  steps : List Step
deriving DecidableEq, Repr

/-- A fixture as it is written. -/
structure Fixture where
  dumpStateAfterTest : Bool
  groups : List Group
  cards : Table UInt64 Card
  buttons : Table String DeclaredButton
  tests : List Test
deriving DecidableEq, Repr

/-- What the tests of a suite refer to. -/
structure Inventory where
  groups : List Group
  cards : Table UInt64 Card
  buttons : Table String ButtonBinding
deriving DecidableEq, Repr

/-- A fixture that holds together. -/
structure Suite extends Inventory where
  dumpStateAfterTest : Bool
  tests : List Test
deriving DecidableEq, Repr

/-! ## Reading fixtures -/

def Test.read : Json.Reader Test :=
  (Test.mk <$> .required "name" Json.Reader.string
    <*> .defaulted "sleepBetween" Duration.readMillis 0
    <*> .defaulted "seed" (Json.Reader.optional Json.Reader.uint64) none
    <*> .defaulted "steps" (Json.Reader.list Step.read) []
    : Json.RecordReader Json.Outline Test).outline "Test"

/-- A map in a document as a table. -/
def Json.Reader.table {κ ν : Type} [LT κ] [DecidableLT κ] [DecidableEq κ]
    (readKey : Json.Quotation → Except Json.Fault κ) (read : Json.Reader ν) :
    Json.Reader (Table κ ν) :=
  fun o => Table.ofList <$> Json.Reader.map readKey read o

def Fixture.read : Json.Reader Fixture :=
  (Fixture.mk <$> .defaulted "dumpStateAfterTest" Json.Reader.bool false
    <*> .defaulted "groups" (Json.Reader.list Group.read) []
    <*> .defaulted "cards" (Json.Reader.table Json.Quotation.numberKey Card.read) {}
    <*> .defaulted "buttons" (Json.Reader.table Json.Quotation.textKey DeclaredButton.read) {}
    <*> .required "tests" (Json.Reader.list Test.read)
    : Json.RecordReader Json.Outline Fixture).outline "SuiteDocument"

/-! ## Fixtures that hold together -/

/-- How a fixture is at odds with itself. -/
inductive SuiteFault
  | repeatedGroup (groupId : String)
  | misfiledCard (key registrantId : UInt64)
  | undeclaredGroup (key : UInt64) (groupId : String)
  | idleButton (name : String)
  | unknownSnapshotField (test field : String)
deriving DecidableEq, Repr

def SuiteFault.text : SuiteFault → String
  | .repeatedGroup groupId => "group '" ++ groupId ++ "' is declared more than once"
  | .misfiledCard key registrantId =>
    "card under key " ++ Decimal.text key.toNat ++ " has registrantId " ++
      Decimal.text registrantId.toNat
  | .undeclaredGroup key groupId =>
    "card " ++ Decimal.text key.toNat ++ " belongs to undeclared group '" ++ groupId ++ "'"
  | .idleButton name => "button '" ++ name ++ "' has no action and its name does not imply one"
  | .unknownSnapshotField test field =>
    "test '" ++ test ++ "' verifies unknown snapshot field '" ++ field ++ "'"

/-- The first element that stands in a list, or among those before, already. -/
def firstRepeated (before : List String) : List String → Option String
  | [] => none
  | a :: rest => if before.contains a then some a else firstRepeated (a :: before) rest

/-- What is wrong with a card under a key. -/
def Card.fault? (groupIds : List String) (key : UInt64) (card : Card) : Option SuiteFault :=
  if key ≠ card.registrantId then some (.misfiledCard key card.registrantId)
  else (card.groups.find? (!groupIds.contains ·)).map (.undeclaredGroup key)

/-- What a button does: what it is declared to do, else what its name implies. -/
def DeclaredButton.bind (name : String) (b : DeclaredButton) : Except SuiteFault ButtonBinding :=
  match b.action.or (ButtonAction.ofName name) with
  | some action => .ok { pins := b.pins, action }
  | none => .error (.idleButton name)

/-- The first field that a step compares and no snapshot has. -/
def Step.unknownField? : Step → Option String
  | .verifySnapshot (some fields) => fields.find? (!Snapshot.fieldNames.contains ·)
  | _ => none

def Test.fault? (t : Test) : Option SuiteFault :=
  (t.steps.findSome? Step.unknownField?).map (.unknownSnapshotField t.name)

/-- Passes on unless a fault was found. -/
def refuse (fault : Option SuiteFault) : Except SuiteFault Unit :=
  match fault with
  | some fault => .error fault
  | none => .ok ()

/-- The suite of a fixture. -/
def Suite.ofFixture (f : Fixture) : Except SuiteFault Suite := do
  let groupIds := f.groups.map Group.groupId
  refuse ((firstRepeated [] groupIds).map .repeatedGroup)
  refuse (f.cards.entries.findSome? fun e => e.2.fault? groupIds e.1)
  let buttons ← f.buttons.entries.mapM fun e => do return (e.1, ← e.2.bind e.1)
  refuse (f.tests.findSome? Test.fault?)
  return {
    dumpStateAfterTest := f.dumpStateAfterTest
    groups := f.groups
    cards := f.cards
    buttons := ⟨buttons⟩
    tests := f.tests }

namespace Inventory

/-- The card of a competitor. -/
def card (i : Inventory) (registrantId : UInt64) : Except StepFault Card :=
  match i.cards.find? registrantId with
  | some card => .ok card
  | none => .error (.unknownCard registrantId)

/-- What the button of a name is bound to. -/
def binding (i : Inventory) (name : String) : Except StepFault ButtonBinding :=
  match i.buttons.find? name with
  | some binding => .ok binding
  | none => .error (.unknownButton name)

end Inventory

end StationBench
