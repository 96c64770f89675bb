import StationBench.Settings.Given
/-!
# References to parts of settings

A setting is not always given as a whole: `only[0]` is the first item of the list `only`, and `a.b`
is the member `b` of the group `a`. Such a name is a reference (`Reference.ofName`), and a value is
put where it leads (`Given.put`): lists are made as long as that takes, and what is in the way gives
way. The members of a group that is given join those that are there (`Given.onto`).
-/
namespace StationBench

/-- A part of a value. -/
inductive Part
  | member (name : String)
  /-- The item at an index; one below zero counts from the end. -/
  | item (index : Int)
deriving DecidableEq, Repr

/-- A setting, and the way from it to the part that is meant. -/
structure Reference where
  setting : String
  way : List Part := []
deriving DecidableEq, Repr

/-! ## Reading references -/

namespace Reference

/-- The characters of the names in a reference. -/
def isNameChar (c : Char) : Bool := c.isAlphanum || c = ' ' || c = '_' || c = '-'

def isBlank (c : Char) : Bool := c = ' ' || c = '\t'

/-- The characters without the blanks on either side. -/
def trim (cs : List Char) : List Char :=
  ((cs.dropWhile isBlank).reverse.dropWhile isBlank).reverse

/-- An index of 64 bits. It has no plus sign. -/
def index? (cs : List Char) : Option Int :=
  match trim cs with
  | '+' :: _ => none
  | cs => (Decimal.readSigned cs).map Int64.toInt

theorem length_dropWhile_le {α : Type} (p : α → Bool) (l : List α) :
    (l.dropWhile p).length ≤ l.length :=
  (List.dropWhile_sublist p).length_le

/-- The way that stands after the name of a setting: a dot and a name, or an index in brackets, any
number of times. -/
def way? : List Char → Option (List Part)
  | [] => some []
  | '.' :: rest =>
    let name := rest.takeWhile isNameChar
    if name.isEmpty then none
    else (way? (rest.dropWhile isNameChar)).map (.member (String.ofList name) :: ·)
  | '[' :: rest =>
    match index? (rest.takeWhile (· ≠ ']')) with
    | some index =>
      if rest.contains ']' then
        (way? ((rest.dropWhile (· ≠ ']')).drop 1)).map (.item index :: ·)
      else none
    | none => none
  | _ => none
termination_by cs => cs.length
decreasing_by
  · have := length_dropWhile_le isNameChar rest
    simp only [List.length_cons]
    omega
  · have := length_dropWhile_le (· ≠ ']') rest
    simp only [List.length_cons, List.length_drop]
    omega

/-- The reference that a name is. A name that is written like none stands for itself. -/
def ofName (name : String) : Reference :=
  let cs := name.toList
  let setting := cs.takeWhile isNameChar
  match way? (cs.dropWhile isNameChar) with
  | some way => if setting.isEmpty then ⟨name, []⟩ else ⟨String.ofList setting, way⟩
  | none => ⟨name, []⟩

theorem ofName_of_all {name : String} (h : name.toList.all isNameChar = true) :
    ofName name = ⟨name, []⟩ := by
  have hd : name.toList.dropWhile isNameChar = [] := by
    rw [List.all_eq_true] at h
    generalize name.toList = cs at h
    induction cs with
    | nil => rfl
    | cons c rest ih => grind [List.dropWhile_cons]
  have ht : name.toList.takeWhile isNameChar = name.toList := by
    have := List.takeWhile_append_dropWhile (p := isNameChar) (l := name.toList)
    rwa [hd, List.append_nil] at this
  simp only [ofName, hd, ht, way?]
  split <;> simp

end Reference

/-! ## Putting values -/

namespace Given

/-- A group with a member put into it; what is no group gives way to a new one. -/
def withMember (g : Given) (name : String) (v : Given) : Given :=
  match g with
  | .group members origin => .group (Table.insertEntry name v members) origin
  | _ => .group [(name, v)] none

/-- The position of an index in a list of a length. -/
def position (length : Nat) (index : Int) : Nat :=
  if 0 ≤ index then index.toNat else length - index.natAbs

/-- A list with one item changed; what is no list gives way to a new one. -/
def changeItem (g : Given) (index : Int) (change : Given → Given) : Given :=
  let (items, origin) := match g with
    | .list items origin => (items, origin)
    | _ => ([], none)
  let n := position items.length index
  .list ((items ++ List.replicate (n + 1 - items.length) nothing).modify n change) origin

mutual

/-- A value where there may be one already: the members of a group go there one by one, anything
else takes the place. -/
def onto : Given → Option Given → Given
  | .group members _, there => membersOnto members (there.getD (.group [] none))
  | v, _ => v

def membersOnto : List (String × Given) → Given → Given
  | [], there => there
  | (name, v) :: rest, there =>
    membersOnto rest (there.withMember name (v.onto (there.member? name)))

end

/-- Puts a value where a way leads from what is there, if anything is. -/
def put (v : Given) : List Part → Option Given → Given
  | [], there => v.onto there
  | [.item index], there => (there.getD nothing).changeItem index fun _ => v
  | .item index :: way, there =>
    (there.getD nothing).changeItem index fun item => put v way (some item)
  | .member name :: way, there =>
    (there.getD nothing).withMember name (put v way ((there.getD nothing).member? name))

end Given

end StationBench
