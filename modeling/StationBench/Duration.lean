import StationBench.Text.Space
import StationBench.Json.Record
/-!
# Durations

A duration is a whole number of milliseconds below 2⁶⁴. It is written as a number and a unit with
white space around either (`" 2 m "`); a bare number counts milliseconds. `Duration.ofText` reads
that notation, and scaling to milliseconds stops at the greatest duration. Where a document gives
a duration, it may be a number or a text (`Duration.read`). What asks for a count of milliseconds
goes through a span of time, which is kept in seconds and nanoseconds and could be longer
(`Duration.readMillis`).
-/
namespace StationBench

/-- A unit of time. -/
inductive TimeUnit
  | millisecond
  | second
  | minute
  | hour
deriving DecidableEq, Repr

namespace TimeUnit

/-- The length of a unit in milliseconds. -/
def millis : TimeUnit → Nat
  | .millisecond => 1
  | .second => 1000
  | .minute => 60 * 1000
  | .hour => 60 * 60 * 1000

/-- The spellings of a unit. -/
def spellings : TimeUnit → List String
  | .millisecond => ["ms", "millisecond", "millis", "milliseconds"]
  | .second => ["s", "second", "secs", "seconds"]
  | .minute => ["m", "minute", "mins", "minutes"]
  | .hour => ["h", "hour", "hours"]

def ofText? (s : String) : Option TimeUnit :=
  [millisecond, second, minute, hour].find? (·.spellings.contains s)

end TimeUnit

/-- Why a text is no duration. -/
inductive DurationFault
  /-- The text is not a number with an optional word after it, or the number is too large. -/
  | shape (text : String)
  | unit (word : String)
deriving DecidableEq, Repr

def DurationFault.text : DurationFault → String
  | .shape text =>
    "'" ++ text ++
      "' is not a duration, expected a number with an optional unit such as 250ms or 30s"
  | .unit word => "unit '" ++ word ++ "' not supported"

/-- The unit that a word names. -/
def TimeUnit.ofText (s : String) : Except DurationFault TimeUnit :=
  match ofText? s with
  | some unit => .ok unit
  | none => .error (.unit s)

/-- A duration in milliseconds. -/
abbrev Millis := UInt64

/-- A span of time. -/
structure Span where
  seconds : UInt64
  nanos : Nat
  nanos_lt : nanos < 1000000000
deriving DecidableEq, Repr

namespace Span

def ofMillis (ms : Millis) : Span where
  seconds := ms / 1000
  nanos := ms.toNat % 1000 * 1000000
  nanos_lt := by have := Nat.mod_lt ms.toNat (by decide : 0 < 1000); omega

/-- The whole milliseconds of a span. -/
def millis (s : Span) : Nat := s.seconds.toNat * 1000 + s.nanos / 1000000

/-- The whole milliseconds of a span, which may be too many. -/
def toMillis (s : Span) : Except Json.Fault Millis :=
  if s.millis < UInt64.size then .ok (.ofNat s.millis)
  else Json.throwBroken "out of range integral type conversion attempted"

end Span

namespace Duration

def greatest : Nat := UInt64.size - 1

/-- The lower-case letters that a unit is written with. -/
def isUnitLetter (c : Char) : Bool := 'a' ≤ c && c ≤ 'z'

/-- A number and a word, as they stand in a text with white space around either. -/
def split (cs : List Char) : Option (List Char × List Char) :=
  let cs := cs.dropWhile Text.isSpace
  let number := cs.takeWhile Char.isDigit
  let cs := (cs.dropWhile Char.isDigit).dropWhile Text.isSpace
  let word := cs.takeWhile isUnitLetter
  let rest := (cs.dropWhile isUnitLetter).dropWhile Text.isSpace
  if number.isEmpty || !rest.isEmpty then none else some (number, word)

/-- So many units, in milliseconds, at most the greatest duration. -/
def scale (count : Nat) (unit : TimeUnit) : Millis :=
  .ofNat (min (count * unit.millis) greatest)

/-- Reads the notation of a duration. -/
def ofText (s : String) : Except DurationFault Millis :=
  match split s.toList with
  | none => .error (.shape s)
  | some (number, word) =>
    if greatest < Decimal.value number then .error (.shape s)
    else if word.isEmpty then .ok (scale (Decimal.value number) .millisecond)
    else do return scale (Decimal.value number) (← TimeUnit.ofText (String.ofList word))

/-- A duration in a document: a whole number of milliseconds, or a text. -/
def ofValue : Json.Value → Except Json.Fault Millis
  | .number (.natural n) => .ok n
  | .string s => (ofText s).mapError fun fault => .mismatch (.broken fault.text)
  | _ => Json.throwMismatch (.noForm "RawDuration")

def read : Json.Reader Millis := fun o => do ofValue (← o.written)

/-- A duration as a count of milliseconds. -/
def readMillis : Json.Reader Millis := fun o => do (Span.ofMillis (← read o)).toMillis

/-- The decimals of a part of a whole, without the zeros at the end. -/
def decimals (part width : Nat) : List Char :=
  let ds := Decimal.digits part
  ((List.replicate (width - ds.length) '0' ++ ds).reverse.dropWhile (· = '0')).reverse

/-- A duration in the unit that suits it: seconds from one second up, else milliseconds, and
nothing at all in nanoseconds. -/
def describe (ms : Millis) : String :=
  let n := ms.toNat
  if n = 0 then "0ns"
  else if n < 1000 then Decimal.text n ++ "ms"
  else
    let point := if n % 1000 = 0 then [] else '.' :: decimals (n % 1000) 3
    Decimal.text (n / 1000) ++ String.ofList point ++ "s"

end Duration

end StationBench
