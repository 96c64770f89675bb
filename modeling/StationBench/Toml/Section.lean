import StationBench.Toml.Value
/-!
# Sections of a TOML document

A document is a list of sections: the members in front of all headers, and under every header the
members that belong to the table it names. `tableOf` puts the sections of a table together: its own
section, of which there may be one, and a member for every name that headers go on with. Where the
first of the headers with a name is in double brackets and ends there, each such header begins
another item of an array.
-/
namespace StationBench.Toml

structure Section where
  /-- The names in the header, from the table that is looked at. -/
  path : List String
  /-- Whether the header is in double brackets, which add an item to an array. -/
  isItem : Bool := false
  /-- The members under the header. -/
  given : Members := []
deriving Repr

namespace Section

/-- Whether a section begins another item of the array that is looked at. -/
def beginsItem (s : Section) : Bool := s.path.isEmpty && s.isItem

/-- The section of a member, from that member. -/
def inMember (name : String) (s : Section) : Option Section :=
  match s.path with
  | k :: path => if k = name then some { s with path } else none
  | [] => none

/-- The sections of an array, one list for every item. -/
def items : List Section → List (List Section)
  | [] => []
  | s :: rest =>
    match items rest with
    | [] => [[s]]
    | group :: groups =>
      match group with
      | first :: _ =>
        if first.beginsItem then [s] :: group :: groups else (s :: group) :: groups
      | [] => [s] :: groups

/-- The sections of an item as those of a table: what begins the item is the table's own. -/
def asTable : List Section → List Section
  | s :: rest => { s with isItem := false } :: rest
  | [] => []

end Section

/-- The members that a section of a table gives after those before it: a section of the table's own
gives its members, and any other the one that it belongs to, unless that was there before. -/
def Section.members (group : String → Value) (before : List Section) (s : Section) : Members :=
  match s.path with
  | [] =>
    if s.isItem || before.any fun b => b.path.isEmpty then [("", .conflict)] else s.given
  | name :: _ => if before.any fun b => b.path.head? = some name then [] else [(name, group name)]

/-- What all sections of a table give, after those before it, the latest first. -/
def sectionMembers (group : String → Value) : (before : List Section) → List Section → Members
  | _, [] => []
  | before, s :: rest => s.members group before ++ sectionMembers group (s :: before) rest

/-- A table that sections make up. One that has more sections than its own is no moment. -/
def Value.ofSections (sections : List Section) (v : Value) : Value :=
  match v, sections with
  | .table members _, _ :: _ :: _ => if (momentOf? members).isSome then .conflict else v
  | v, _ => v

/-- The table that sections make up, the headers of which go on with `depth` names at most. -/
def tableOf : (depth : Nat) → List Section → Value
  | 0, sections => .table (sectionMembers (fun _ => .conflict) [] sections) false
  | depth + 1, sections =>
    let member (name : String) : Value :=
      let group := sections.filterMap (Section.inMember name)
      if group.head?.any Section.beginsItem then
        .array ((Section.items group).map fun item =>
          (tableOf depth (Section.asTable item)).ofSections item)
      else (tableOf depth group).ofSections group
    .table (sectionMembers member [] sections) false

/-- The table that a whole document is. -/
def document (sections : List Section) : Value :=
  tableOf ((sections.map fun s => s.path.length).foldl max 0) sections

end StationBench.Toml
