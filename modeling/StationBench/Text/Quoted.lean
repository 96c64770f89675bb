import StationBench.Text.Shown
import StationBench.Decimal.Natural
/-!
# Quoted text

How a message shows a piece of text: between double quotes, with the quote, the backslash and the
common controls escaped, and every other character that would not show spelled out as
`\u{...}` with the lower-case hexadecimal digits of its number.
-/
namespace StationBench.Text

def hexDigitChar (d : Nat) : Char :=
  if d < 10 then Char.ofNat (48 + d) else Char.ofNat (87 + d)

/-- Lower-case hexadecimal digits without leading zeros. -/
def hexDigits (n : Nat) : List Char :=
  if n < 16 then [hexDigitChar n] else hexDigits (n / 16) ++ [hexDigitChar (n % 16)]

/-- One character inside quotes. -/
def quoteChar (c : Char) : List Char :=
  match c with
  | '\x00' => ['\\', '0']
  | '\t' => ['\\', 't']
  | '\r' => ['\\', 'r']
  | '\n' => ['\\', 'n']
  | '"' => ['\\', '"']
  | '\\' => ['\\', '\\']
  | c =>
    if isSpelledOut c then ['\\', 'u', '\x7b'] ++ hexDigits c.toNat ++ ['\x7d'] else [c]

/-- A text in quotes. -/
def quoted (s : String) : String :=
  String.ofList ('"' :: s.toList.flatMap quoteChar ++ ['"'])

/-- An optional number, as messages show it. -/
def optionalNumber : Option UInt64 → String
  | some n => "Some(" ++ Decimal.text n.toNat ++ ")"
  | none => "None"

end StationBench.Text
