import StationBench.Json.Record
/-!
# Competitors and groups

A card identifies a competitor; groups are called up together. A card names the groups it belongs
to, and the first declared one of them decides what the station does for it (`groupFor`).
-/
namespace StationBench

/-- The card of a competitor. -/
structure Card where
  canCompete : Bool
  name : String
  registrantId : UInt64
  wcaId : String
  /-- The identifiers of the card's groups, ascending. -/
  groups : List String
deriving DecidableEq, Repr

structure Group where
  groupId : String
  useInspection : Bool
  secondaryText : String
deriving DecidableEq, Repr

/-- The first of the groups that a card belongs to. -/
def groupFor (groups : List Group) (card : Card) : Option Group :=
  groups.find? fun g => card.groups.contains g.groupId

namespace Card

def toJson (c : Card) : Json.Value :=
  .object
    [("canCompete", .bool c.canCompete), ("name", .string c.name),
      ("registrantId", .ofUInt64 c.registrantId), ("wcaId", .string c.wcaId),
      ("groups", .ofList .string c.groups)]

def read : Json.Reader Card :=
  (Card.mk <$> .required "canCompete" Json.Reader.bool
    <*> .required "name" Json.Reader.string
    <*> .required "registrantId" Json.Reader.uint64
    <*> .required "wcaId" Json.Reader.string
    <*> .defaulted "groups" (fun o => ordered <$> Json.Reader.list Json.Reader.string o) []
    : Json.RecordReader Json.Outline Card).outline "Card"

end Card

namespace Group

def toJson (g : Group) : Json.Value :=
  .object
    [("groupId", .string g.groupId), ("useInspection", .bool g.useInspection),
      ("secondaryText", .string g.secondaryText)]

def read : Json.Reader Group :=
  (Group.mk <$> .required "groupId" Json.Reader.string
    <*> .defaulted "useInspection" Json.Reader.bool false
    <*> .defaulted "secondaryText" Json.Reader.string ""
    : Json.RecordReader Json.Outline Group).outline "Group"

end Group

end StationBench
