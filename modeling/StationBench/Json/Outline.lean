import StationBench.Json.Token
/-!
# The outline of a JSON text

An outline is the tree of a text as far as the text makes one: where the text goes wrong, the tree
ends, and the place says how. So a reader that walks the tree in the order of the text meets the
first fault first, be it one of the text or one of its own. Containers carry the number of
containers they stand in, themselves included, since a reader goes down only so far.
`Outline.ofText` builds the tree from the tokens with a stack of open containers.
-/
namespace StationBench.Json

/-- What is wrong where a value should stand. -/
inductive Flaw
  /-- The text ends. -/
  | missing
  /-- Something that no value starts with. -/
  | stray
  | badWord
  | cutWord
  | badNumber (flaw : NumberFlaw)
  /-- The key before has no colon. -/
  | noColon
  /-- The text ends after the key before. -/
  | endBeforeColon
deriving DecidableEq, Repr

/-- How a container ends. -/
inductive Ending
  | closed
  /-- The text ends where a comma or the end could stand. -/
  | endOfText
  /-- Something else stands where a comma or the end could. -/
  | noComma
  /-- A comma stands before the end. -/
  | commaThenClose
  /-- The text ends after a comma. -/
  | commaThenEnd
  /-- Something other than a string stands where a key should. -/
  | badKey
  /-- The value before is itself unfinished, so that nothing is known of the end. -/
  | unknown
deriving DecidableEq, Repr

mutual

inductive Outline
  | null
  | bool (b : Bool)
  | number (lit : Literal)
  | string (q : Quotation)
  | array (level : Nat) (items : Items)
  | object (level : Nat) (fields : Fields)
  | broken (flaw : Flaw)

/-- The items of an array and how it ends. -/
inductive Items
  | done (ending : Ending)
  | item (head : Outline) (rest : Items)

/-- The fields of an object and how it ends. -/
inductive Fields
  | done (ending : Ending)
  | field (key : Quotation) (value : Outline) (rest : Fields)

end

/-- The items of an array, from the latest to the first, put before its ending. -/
def Items.ofReversed (ending : Items) (latestFirst : List Outline) : Items :=
  latestFirst.foldl (fun rest v => .item v rest) ending

/-- The fields of an object, from the latest to the first, put before its ending. -/
def Fields.ofReversed (ending : Fields) (latestFirst : List (Quotation × Outline)) : Fields :=
  latestFirst.foldl (fun rest f => .field f.1 f.2 rest) ending

/-- An open container around a value that is being read, with its level and with what came before
the value, latest first. -/
inductive Parent
  | array (level : Nat) (items : List Outline)
  | member (level : Nat) (fields : List (Quotation × Outline)) (key : Quotation)

/-- The number of open containers, given the containers. -/
def Parent.levelOf : List Parent → Nat
  | [] => 0
  | .array level _ :: _ | .member level _ _ :: _ => level

/-- Where in a text one stands, with the containers around it, innermost first. -/
inductive Position
  /-- Before a value. -/
  | value (parents : List Parent)
  /-- After an opening bracket. -/
  | firstItem (parents : List Parent)
  /-- After a comma in an array. -/
  | nextItem (items : List Outline) (parents : List Parent)
  | afterItem (items : List Outline) (parents : List Parent)
  /-- After an opening brace. -/
  | firstKey (parents : List Parent)
  /-- After a comma in an object. -/
  | nextKey (fields : List (Quotation × Outline)) (parents : List Parent)
  | afterKey (fields : List (Quotation × Outline)) (key : Quotation) (parents : List Parent)
  | afterField (fields : List (Quotation × Outline)) (parents : List Parent)
  /-- After the value of the text, or after its first flaw; `more` if anything followed. -/
  | finished (root : Outline) (more : Bool)

namespace Position

def array (items : List Outline) (ending : Ending) (parents : List Parent) : Outline :=
  .array (Parent.levelOf parents + 1) (.ofReversed (.done ending) items)

def object (fields : List (Quotation × Outline)) (ending : Ending) (parents : List Parent) :
    Outline :=
  .object (Parent.levelOf parents + 1) (.ofReversed (.done ending) fields)

/-- The containers with one more, an array, inside. -/
def inArray (items : List Outline) (parents : List Parent) : List Parent :=
  .array (Parent.levelOf parents + 1) items :: parents

/-- The containers with one more, an object, inside. -/
def inMember (fields : List (Quotation × Outline)) (key : Quotation) (parents : List Parent) :
    List Parent :=
  .member (Parent.levelOf parents + 1) fields key :: parents

/-- The position after a value. -/
def after (v : Outline) : List Parent → Position
  | [] => .finished v false
  | .array _ items :: parents => .afterItem (v :: items) parents
  | .member _ fields key :: parents => .afterField ((key, v) :: fields) parents

/-- The tree of a text that ends with an unfinished value. -/
def breakOff (v : Outline) : List Parent → Outline
  | [] => v
  | .array _ items :: parents => breakOff (array (v :: items) .unknown parents) parents
  | .member _ fields key :: parents =>
    breakOff (object ((key, v) :: fields) .unknown parents) parents

/-- Gives up at an unfinished value. -/
def stop (v : Outline) (parents : List Parent) : Position :=
  .finished (breakOff v parents) false

/-- A token where a value should stand. -/
def startValue (parents : List Parent) : Token → Position
  | .null => after .null parents
  | .bool b => after (.bool b) parents
  | .number lit => after (.number lit) parents
  | .string q => after (.string q) parents
  | .openBracket => .firstItem parents
  | .openBrace => .firstKey parents
  | .closeBracket | .closeBrace | .comma | .colon | .stray => stop (.broken .stray) parents
  | .badNumber flaw => stop (.broken (.badNumber flaw)) parents
  | .badWord => stop (.broken .badWord) parents
  | .cutWord => stop (.broken .cutWord) parents

/-- The position after one more token. -/
def step : Position → Token → Position
  | .value parents, t => startValue parents t
  | .firstItem parents, .closeBracket => after (array [] .closed parents) parents
  | .firstItem parents, t => startValue (inArray [] parents) t
  | .nextItem items parents, .closeBracket => stop (array items .commaThenClose parents) parents
  | .nextItem items parents, t => startValue (inArray items parents) t
  | .afterItem items parents, .comma => .nextItem items parents
  | .afterItem items parents, .closeBracket => after (array items .closed parents) parents
  | .afterItem items parents, _ => stop (array items .noComma parents) parents
  | .firstKey parents, .closeBrace => after (object [] .closed parents) parents
  | .firstKey parents, .string q => .afterKey [] q parents
  | .firstKey parents, _ => stop (object [] .badKey parents) parents
  | .nextKey fields parents, .closeBrace => stop (object fields .commaThenClose parents) parents
  | .nextKey fields parents, .string q => .afterKey fields q parents
  | .nextKey fields parents, _ => stop (object fields .badKey parents) parents
  | .afterKey fields key parents, .colon => .value (inMember fields key parents)
  | .afterKey fields key parents, _ => stop (.broken .noColon) (inMember fields key parents)
  | .afterField fields parents, .comma => .nextKey fields parents
  | .afterField fields parents, .closeBrace => after (object fields .closed parents) parents
  | .afterField fields parents, _ => stop (object fields .noComma parents) parents
  | .finished root _, _ => .finished root true

/-- The tree where the text ends. -/
def root : Position → Outline
  | .value parents => breakOff (.broken .missing) parents
  | .firstItem parents => breakOff (array [] .endOfText parents) parents
  | .nextItem items parents => breakOff (array items .commaThenEnd parents) parents
  | .afterItem items parents => breakOff (array items .endOfText parents) parents
  | .firstKey parents => breakOff (object [] .endOfText parents) parents
  | .nextKey fields parents => breakOff (object fields .commaThenEnd parents) parents
  | .afterKey fields key parents =>
    breakOff (.broken .endBeforeColon) (inMember fields key parents)
  | .afterField fields parents => breakOff (object fields .endOfText parents) parents
  | .finished root _ => root

def hasMore : Position → Bool
  | .finished _ more => more
  | _ => false

end Position

/-- A text as a tree, and whether anything follows the tree. -/
structure Document where
  root : Outline
  more : Bool

/-- The outline of a text. -/
def Document.ofText (text : String) : Document :=
  let position := (tokens text.toList).foldl Position.step (.value [])
  ⟨position.root, position.hasMore⟩

end StationBench.Json
