import StationBench.Message
import StationBench.Roster
/-!
# Snapshots

What can be seen of a station from outside, under eight field names in a fixed order
(`Snapshot.fieldNames`). A captured field is a JSON value with its members in key order.
-/
namespace StationBench

structure Snapshot where
  scannedCard : Option Card
  groupId : Option String
  secondaryText : Option String
  inspectionActive : Bool
  solveTime : Option Millis
  penalty : Penalty
  delegatePending : Bool
  lastSent : Option Message
deriving DecidableEq, Repr

namespace Snapshot

/-- The names of the fields, in the order in which they are compared. -/
def fieldNames : List String :=
  ["scannedCard", "groupId", "secondaryText", "inspectionActive", "solveTime", "penalty",
    "delegatePending", "lastSent"]

def toJson (s : Snapshot) : Json.Value :=
  .object
    [("scannedCard", .ofOption Card.toJson s.scannedCard),
      ("groupId", .ofOption .string s.groupId),
      ("secondaryText", .ofOption .string s.secondaryText),
      ("inspectionActive", .bool s.inspectionActive),
      ("solveTime", .ofOption .ofUInt64 s.solveTime),
      ("penalty", s.penalty.toJson),
      ("delegatePending", .bool s.delegatePending),
      ("lastSent", .ofOption Message.toJson s.lastSent)]

/-- A snapshot as a value whose fields can be looked up. -/
def capture (s : Snapshot) : Json.Value := s.toJson.ordered

end Snapshot

end StationBench
