import StationBench.Files
import StationBench.Settings
import StationBench.Settings.Layers
import StationBench.Toml
/-!
# Loading settings

Settings are loaded from a settings file, if there is to be one, and from the environment, which
wins (`Settings.load`). What a file is written in can be told from the ending of its name, and which
ways of writing there are is up to the caller: a `FileFormat` is known by its endings and by the
settings that it finds in a text. Two of them are here, JSON and TOML. Names in a file that are no
settings are passed over.
-/
namespace StationBench

/-! ## Faults -/

/-- The part of a setting that a fault is about. -/
inductive Spot
  | setting (name : String)
  | item (name : String) (index : Nat)
deriving DecidableEq, Repr

def Spot.text : Spot → String
  | .setting name => name
  | .item name index => name ++ "[" ++ Decimal.text index ++ "]"

/-- Why settings cannot be loaded. -/
inductive SettingsFault
  /-- The file is not there, or its name does not say how it is written. -/
  | noFile (name : String)
  /-- The file is not written as its name says. -/
  | malformed (path : String)
  /-- A value cannot be taken for what the setting asks for. -/
  | unfit (found : Json.Found) (expected : String) (spot : Spot) (origin : Option Origin)
  | noList (found : Json.Found)
  | duration (fault : Json.Fault)
  | inverted (least greatest : Millis)
deriving DecidableEq, Repr

namespace SettingsFault

/-- A found value in the words of these messages. -/
def describe (found : Json.Found) : String := found.describe "unit value" .pointed

def text : SettingsFault → String
  | .noFile name => "configuration file \"" ++ name ++ "\" not found"
  | .malformed path => "cannot parse configuration file " ++ path
  | .unfit found expected spot origin =>
    "invalid type: " ++ describe found ++ ", expected " ++ expected ++ " for key `" ++ spot.text ++
      "`" ++ ((origin.map Origin.text).getD "")
  | .noList found => "invalid type: " ++ describe found ++ ", expected a sequence"
  | .duration fault => fault.text
  | .inverted least greatest =>
    "rng_min_ms (" ++ Decimal.text least.toNat ++ ") is greater than rng_max_ms (" ++
      Decimal.text greatest.toNat ++ ")"

end SettingsFault

/-! ## Reading a layer -/

namespace Given

def scalar? : Given → Option Scalar
  | .scalar s _ => some s
  | _ => none

/-- The value as what is expected of it, or the fault that it is not. -/
def expect {α : Type} (g : Given) (expected : String) (spot : Spot) (found : Json.Found) :
    Option α → Except SettingsFault α
  | some a => .ok a
  | none => .error (.unfit found expected spot g.origin)

/-- What was found where a truth was expected; a text is shown in lower case. -/
def foundForBool : Given → Json.Found
  | .scalar (.string s) _ => .string (Text.lower s)
  | g => g.found

def readBool (name : String) (g : Given) : Except SettingsFault Bool :=
  g.expect "a boolean" (.setting name) g.foundForBool (g.scalar?.bind Scalar.toBool?)

/-- A number without sign; one below zero counts from 2⁶⁴ down. -/
def readUInt64 (name : String) (g : Given) : Except SettingsFault UInt64 :=
  Int64.toUInt64 <$>
    g.expect "an integer" (.setting name) g.found (g.scalar?.bind Scalar.toInteger?)

def readText (spot : Spot) (g : Given) : Except SettingsFault String :=
  g.expect "a string" spot g.found (g.scalar?.bind Scalar.toText?)

/-- Null stands for nothing. -/
def readOptional {α : Type} (read : Given → Except SettingsFault α) :
    Given → Except SettingsFault (Option α)
  | .scalar .null _ => .ok none
  | g => some <$> read g

def readDuration (g : Given) : Except SettingsFault Millis :=
  (Duration.ofValue (match g with
    | .scalar s _ => s.value
    | .list _ _ => .array []
    | .group _ _ => .object [])).mapError .duration

def readTexts (name : String) (g : Given) : Except SettingsFault (List String) :=
  match g with
  | .list items _ => items.zipIdx.mapM fun (item, index) => item.readText (.item name index)
  | g => .error (.noList g.found)

end Given

namespace Settings

/-- The setting of a name in a layer, read in some way; one that is not given has its default. -/
def get {α : Type} (layer : Layer) (name : String)
    (read : String → Given → Except SettingsFault α) (default : α) : Except SettingsFault α :=
  match layer.find? name with
  | some g => read name g
  | none => .ok default

/-- The settings in a layer. -/
def ofLayer (layer : Layer) : Except SettingsFault Settings := do
  let d : Settings := {}
  return {
    seed := ← get layer "seed" Given.readUInt64 d.seed
    perTestSeed := ← get layer "per_test_seed" Given.readBool d.perTestSeed
    continueOnFailure := ← get layer "continue_on_failure" Given.readBool d.continueOnFailure
    realtime := ← get layer "realtime" Given.readBool d.realtime
    timeout := ← get layer "timeout" (fun _ => Given.readOptional Given.readDuration) d.timeout
    rngMin := ← get layer "rng_min_ms" Given.readUInt64 d.rngMin
    rngMax := ← get layer "rng_max_ms" Given.readUInt64 d.rngMax
    report := ← get layer "report"
      (fun name => Given.readOptional (Given.readText (.setting name))) d.report
    only := ← get layer "only" Given.readTexts d.only }

/-- Refuses bounds of random times in the wrong order. -/
def validate (s : Settings) : Except SettingsFault Settings :=
  if s.rngMax < s.rngMin then .error (.inverted s.rngMin s.rngMax) else .ok s

/-! ## The settings file -/

/-- A way to write settings files. -/
structure FileFormat where
  /-- The endings of the names of files that are written so. -/
  endings : List String
  /-- The settings in the text of the file at a path. -/
  members? : (path text : String) → Option (List (String × Given))

namespace FileFormat

/-- The settings in a document that was read: a document that has no members has no settings. -/
def membersOf (path : String) : Json.Value → List (String × Given)
  | .object members => Given.ofMembers (.file path) members
  | _ => []

def json : FileFormat where
  endings := ["json"]
  members? path text := (Json.read Json.Reader.value text).toOption.map (membersOf path)

def toml : FileFormat where
  endings := ["toml"]
  members? path text := (Toml.read text).map (membersOf path)

/-- The ways to write settings files that are always there. -/
def common : List FileFormat := [toml, json]

end FileFormat

/-- What stands before and after the last dot of a file's own name; a dot in front does not
count. -/
def splitEnding (name : String) : String × Option String :=
  let reversed := name.toList.reverse
  match reversed.dropWhile (· ≠ '.') with
  | _ :: stem =>
    if stem.isEmpty then (name, none)
    else (String.ofList stem.reverse,
      some (String.ofList (reversed.takeWhile (· ≠ '.')).reverse))
  | [] => (name, none)

/-- The names under which a settings file is looked for, with the way it is then written. The name
itself comes first; its ending has to be one of those that are known. -/
def candidates (formats : List FileFormat) (name : String) : List (String × Option FileFormat) :=
  let route := (Route.ofName name).tidy
  match route.parts.getLast?.filter (· ≠ "..") with
  | none => []
  | some last =>
    let (stem, ending) := splitEnding last
    (name, formats.find? fun format => ending.any format.endings.contains) ::
      formats.flatMap fun format => format.endings.map fun ending =>
        ((route.neighbour (stem ++ "." ++ ending)).name, some format)

/-- How messages call a file. -/
def shownPath (name : String) : String := "/".intercalate (Route.ofName name).tidy.parts

/-- The layer of a settings file, the first of the candidates that is there. -/
def fileLayer (read : String → Except FileFault String) (name : String) :
    List (String × Option FileFormat) → Except SettingsFault Layer
  | [] => .error (.noFile name)
  | (candidate, written) :: rest =>
    match read candidate with
    | .ok text =>
      match written with
      | none => .error (.noFile name)
      | some format =>
        match format.members? (shownPath candidate) text with
        | some members => .ok (.ofList members)
        | none => .error (.malformed (shownPath candidate))
    | .error .invalidData => .error (.noFile name)
    | .error _ => fileLayer read name rest

/-- The layer of the settings file, if there is to be one. -/
def fileSettings (formats : List FileFormat) (read : String → Except FileFault String) :
    Option String → Except SettingsFault Layer
  | some name => fileLayer read name (candidates formats name)
  | none => .ok {}

/-- Loads the settings from a file, if there is to be one, and the environment. -/
def load (read : String → Except FileFault String) (file : Option String)
    (environment : List (String × String)) (formats : List FileFormat := FileFormat.common) :
    Except SettingsFault Settings := do
  let lower ← fileSettings formats read file
  (← ofLayer ((Layer.ofEnvironment environment).atop (lower.atop {}))).validate

/-- Loads the settings, unless the name of a variable is torn: that breaks loading off once the file
was read, so that there are neither settings nor a fault. -/
def load? (read : String → Except FileFault String) (file : Option String)
    (environment : List (String × String)) (formats : List FileFormat := FileFormat.common) :
    Option (Except SettingsFault Settings) :=
  if (fileSettings formats read file).isOk && environment.any fun v => Layer.isTorn v.1 then none
  else some (load read file environment formats)

end Settings

end StationBench
