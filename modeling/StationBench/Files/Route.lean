import StationBench.Files.Fault
/-!
# Routes

The name of a file is a route: it starts at the root or at the working directory and goes down one
part at a time, stays where it is with a dot, and goes up with two dots. `Route.ofName` cuts a name
into its parts, and `Route.tidy` leaves out the parts that lead nowhere. `Route.fault?` refuses the
names that no file can have.
-/
namespace StationBench

structure Route where
  /-- Whether the route starts at the root. -/
  absolute : Bool
  /-- What stands between the slashes, without what is empty. -/
  parts : List String
  /-- Whether the name ends in a slash, so that it can only be a directory. -/
  directory : Bool := false
deriving DecidableEq, Repr

namespace Route

/-- The parts of a name between its slashes, given the characters of the current part from last to
first. -/
def splitSlashes : (current : List Char) → List Char → List String
  | current, [] => [String.ofList current.reverse]
  | current, c :: rest =>
    if c = '/' then String.ofList current.reverse :: splitSlashes [] rest
    else splitSlashes (c :: current) rest

def ofName (name : String) : Route where
  absolute := name.startsWith "/"
  parts := (splitSlashes [] name.toList).filter (· ≠ "")
  directory := name.endsWith "/"

/-- The name of a route. -/
def name (r : Route) : String := (if r.absolute then "/" else "") ++ "/".intercalate r.parts

/-- The route without the dots that lead nowhere and without a slash at its end. -/
def tidy (r : Route) : Route := { absolute := r.absolute, parts := r.parts.filter (· ≠ ".") }

/-- The route to a neighbour of the file that a tidy route leads to. -/
def neighbour (r : Route) (last : String) : Route := { r with parts := r.parts.dropLast ++ [last] }

/-- The route to the directory that the last part is looked up in. -/
def parent? (r : Route) : Option Route :=
  if r.parts.isEmpty then none else some { r.tidy with parts := r.tidy.parts.dropLast }

/-- The greatest length of a part, in bytes. -/
def maxPart : Nat := 255

/-- The greatest length of a name, in bytes. -/
def maxName : Nat := 4095

/-- What is wrong with a name before anything is looked up. -/
def fault? (name : String) : Option FileFault :=
  if name.toList.contains '\x00' then some .invalidInput
  else if name = "" then some .notFound
  else if maxName < name.utf8ByteSize then some .nameTooLong
  else none

end Route

end StationBench
