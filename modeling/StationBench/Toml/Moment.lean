import StationBench.Decimal.Natural
import StationBench.Toml.Text
/-!
# Dates and times

A moment of a TOML document is a date, a time of the day, or both, and both may be at an offset from
universal time. `Moment.read` takes a moment off the front of a text, and `Moment.text` writes it in
one way only: with a `T` in between, without zeros at the end of the fraction of a second, and with
`Z` for universal time.
-/
namespace StationBench.Toml

structure Date where
  year : Nat
  month : Nat
  day : Nat
deriving DecidableEq, Repr

structure TimeOfDay where
  hour : Nat
  minute : Nat
  second : Nat
  nanosecond : Nat
deriving DecidableEq, Repr

inductive Offset
  | universal
  | shifted (west : Bool) (hours minutes : Nat)
deriving DecidableEq, Repr

inductive Moment
  | date (date : Date)
  | time (time : TimeOfDay)
  | both (date : Date) (time : TimeOfDay) (offset : Option Offset)
deriving DecidableEq, Repr

/-! ## Reading -/

/-- A number of so many digits. -/
def fixedNumber (width : Nat) (cs : List Char) : Option (Nat × List Char) :=
  let ds := cs.take width
  if ds.length = width && ds.all Char.isDigit then some (Decimal.value ds, cs.drop width) else none

/-- Takes one character off the front of a text. -/
def expect? (c : Char) : List Char → Option (List Char)
  | d :: rest => if d = c then some rest else none
  | [] => none

def Date.read (cs : List Char) : Option (Date × List Char) := do
  let (year, cs) ← fixedNumber 4 cs
  let (month, cs) ← fixedNumber 2 (← expect? '-' cs)
  let (day, cs) ← fixedNumber 2 (← expect? '-' cs)
  if 1 ≤ month ∧ month ≤ 12 ∧ 1 ≤ day ∧ day ≤ 31 then return ({ year, month, day }, cs) else none

/-- The nanoseconds of a fraction of a second; digits after the ninth do not count. -/
def fraction (cs : List Char) : Option (Nat × List Char) :=
  match cs with
  | '.' :: rest =>
    let ds := rest.takeWhile Char.isDigit
    if ds.isEmpty then none
    else some (Decimal.value ((ds ++ List.replicate 9 '0').take 9), rest.dropWhile Char.isDigit)
  | cs => some (0, cs)

/-- A time of the day. An hour may be 24. -/
def TimeOfDay.read (cs : List Char) : Option (TimeOfDay × List Char) := do
  let (hour, cs) ← fixedNumber 2 cs
  let (minute, cs) ← fixedNumber 2 (← expect? ':' cs)
  let (second, cs) ← fixedNumber 2 (← expect? ':' cs)
  let (nanosecond, cs) ← fraction cs
  if hour ≤ 24 ∧ minute ≤ 59 ∧ second ≤ 59 then
    return ({ hour, minute, second, nanosecond }, cs)
  else none

/-- An offset, if one follows. -/
def Offset.read (cs : List Char) : Option (Option Offset × List Char) := do
  let shift (west : Bool) (cs : List Char) : Option (Option Offset × List Char) := do
    let (hours, cs) ← fixedNumber 2 cs
    let (minutes, cs) ← fixedNumber 2 (← expect? ':' cs)
    return (some (.shifted west hours minutes), cs)
  match cs with
  | 'Z' :: rest | 'z' :: rest => return (some .universal, rest)
  | '+' :: rest => shift false rest
  | '-' :: rest => shift true rest
  | cs => return (none, cs)

/-- The time that follows a date, after a `T` or a space. A space in front of anything else but a
word is not part of the moment. -/
def timeAfterDate? : List Char → Option (List Char)
  | 'T' :: rest | 't' :: rest => some rest
  | ' ' :: c :: rest => if isWordChar c then some (c :: rest) else none
  | _ => none

def Moment.read (cs : List Char) : Option (Moment × List Char) := do
  if cs[2]? = some ':' then
    let (t, rest) ← TimeOfDay.read cs
    return (.time t, rest)
  let (d, rest) ← Date.read cs
  match timeAfterDate? rest with
  | none => return (.date d, rest)
  | some rest =>
    let (t, rest) ← TimeOfDay.read rest
    let (offset, rest) ← Offset.read rest
    return (.both d t offset, rest)

/-! ## Writing -/

/-- A number with zeros in front to a width. -/
def padded (width n : Nat) : List Char :=
  List.replicate (width - (Decimal.digits n).length) '0' ++ Decimal.digits n

def Date.chars (d : Date) : List Char :=
  padded 4 d.year ++ '-' :: padded 2 d.month ++ '-' :: padded 2 d.day

def TimeOfDay.chars (t : TimeOfDay) : List Char :=
  let fraction :=
    if t.nanosecond = 0 then []
    else '.' :: ((padded 9 t.nanosecond).reverse.dropWhile (· = '0')).reverse
  padded 2 t.hour ++ ':' :: padded 2 t.minute ++ ':' :: padded 2 t.second ++ fraction

/-- An offset. No hours are neither east nor west. -/
def Offset.chars : Offset → List Char
  | .universal => ['Z']
  | .shifted west hours minutes =>
    (if west && hours ≠ 0 then '-' else '+') :: padded 2 hours ++ ':' :: padded 2 minutes

def Moment.chars : Moment → List Char
  | .date d => d.chars
  | .time t => t.chars
  | .both d t offset => d.chars ++ 'T' :: t.chars ++ ((offset.map Offset.chars).getD [])

def Moment.text (m : Moment) : String := String.ofList m.chars

/-- The moment that a whole text is. -/
def Moment.ofText? (text : String) : Option Moment :=
  match Moment.read text.toList with
  | some (m, []) => some m
  | _ => none

end StationBench.Toml
