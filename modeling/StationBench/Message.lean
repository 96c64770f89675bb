import StationBench.Penalty
import StationBench.Duration
/-!
# Result messages

What a station sends to the results desk. A delegate may settle a call before any time was
recorded, so a message may lack one.
-/
namespace StationBench

structure Message where
  time : Option Millis
  penalty : Penalty
  delegate : Bool
deriving DecidableEq, Repr

namespace Message

/-- A message as logs show it. -/
def text (m : Message) : String :=
  (match m.time with
    | some t => Decimal.text t.toNat ++ " ms"
    | none => "no time") ++
  ", penalty " ++ m.penalty.text ++ (if m.delegate then ", delegate" else "")

def toJson (m : Message) : Json.Value :=
  .object
    [("time", .ofOption .ofUInt64 m.time), ("penalty", m.penalty.toJson),
      ("delegate", .bool m.delegate)]

def reader : Json.RecordReader Json.Outline Message :=
  Message.mk <$> .field "time" (Json.Reader.optional Json.Reader.uint64) (.unlessListed none)
    <*> .required "penalty" Penalty.read
    <*> .required "delegate" Json.Reader.bool

def read : Json.Reader Message := reader.outline "SolveMessage"

/-- Reads a message from its JSON text. -/
def ofText (text : String) : Except Json.Fault Message := Json.read read text

end Message

end StationBench
