import StationBench.Files.Route
/-!
# Files

A tree of text files, as far as a program that is given names of files can tell: what is read and
written, what is in the way, and the fault if something cannot be done. A name is followed part by
part (`Files.walk`): every part but the last has to be a directory that is there. Among the files
there may be devices, which do not keep what is written to them; which devices there are and what
they do is a part of the tree.
-/
namespace StationBench

/-- Where a file or a directory is: the names from the root down to it. -/
abbrev Place := List String

/-- A file that keeps nothing: what is read from it, and the fault, if any, of a text that is
written to it. -/
structure Device where
  read : Except FileFault String := .ok ""
  fault? : String → Option FileFault := fun _ => none

/-- The text files and the directories that were put into a tree, and the devices that are there
from the start. -/
structure Files where
  texts : List (Place × String) := []
  directories : List Place := []
  devices : List (Place × Device) := [(["dev", "null"], {})]

namespace Files

/-- The working directory. Its own name is one that cannot be spelled, since where it is does not
matter. -/
def home : Place := ["tmp", "\x00"]

/-- The directories that are there from the start. -/
def givenDirectories : List Place :=
  [[], home] ++ ["bin", "boot", "dev", "etc", "home", "lib", "lib64", "media", "mnt", "opt", "proc",
    "root", "run", "sbin", "srv", "sys", "tmp", "usr", "var"].map ([·]) ++
    ["bin", "lib", "local", "sbin", "share"].map (["usr", ·]) ++
    ["cache", "lib", "log", "tmp"].map (["var", ·]) ++ [["dev", "shm"], ["proc", "self"]]

def device? (fs : Files) (place : Place) : Option Device := fs.devices.lookup place

/-- The text that a file keeps. -/
def text? (fs : Files) (place : Place) : Option String :=
  match fs.device? place with
  | some _ => none
  | none => fs.texts.lookup place

/-- What is read at a place, if there is a file. -/
def contents? (fs : Files) (place : Place) : Option (Except FileFault String) :=
  match fs.device? place with
  | some device => some device.read
  | none => (fs.text? place).map .ok

def isFile (fs : Files) (place : Place) : Bool := (fs.contents? place).isSome

def isDirectory (fs : Files) (place : Place) : Bool :=
  givenDirectories.contains place || fs.directories.contains place

/-- Makes a text what a file keeps, unless it is a device. -/
def put (fs : Files) (place : Place) (text : String) : Files :=
  match fs.device? place with
  | some _ => fs
  | none => { fs with texts := (place, text) :: fs.texts.filter (·.1 ≠ place) }

/-! ## Following a route -/

/-- The place of a name in a directory. -/
def child (place : Place) (name : String) : Except FileFault Place :=
  if Route.maxPart < name.utf8ByteSize then .error .nameTooLong else .ok (place ++ [name])

/-- The directory that one part of a route leads to. -/
def step (fs : Files) (place : Place) (part : String) : Except FileFault Place :=
  match part with
  | "." => .ok place
  | ".." => .ok place.dropLast
  | name => do
    let next ← child place name
    if fs.isDirectory next then .ok next
    else if fs.isFile next then .error .notDirectory
    else .error .notFound

/-- The directory that all parts of a route lead to. -/
def walk (fs : Files) (r : Route) (parts : List String) : Except FileFault Place :=
  parts.foldlM fs.step (if r.absolute then [] else home)

/-- What the last part of a route names. -/
inductive Target
  /-- A directory, by a dot or two or as the start of the route. -/
  | directory (place : Place)
  /-- Whatever has a name, which has not been looked up, in a directory that is there. -/
  | entry (parent : Place) (name : String)

/-- Follows a route up to its last part. -/
def target (fs : Files) (r : Route) : Except FileFault Target := do
  let place ← fs.walk r r.parts.dropLast
  match r.parts.getLast? with
  | none | some "." => return .directory place
  | some ".." => return .directory place.dropLast
  | some name => return .entry place name

/-- The target of a name. -/
def targetOf (fs : Files) (name : String) : Except FileFault Target :=
  match Route.fault? name with
  | some fault => .error fault
  | none => fs.target (.ofName name)

/-! ## Reading and writing -/

/-- What is read under a name, given what is read at each place. -/
def find (fs : Files) (contents? : Place → Option (Except FileFault String)) (name : String) :
    Except FileFault String := do
  match ← fs.targetOf name with
  | .directory _ => .error .isDirectory
  | .entry parent last =>
    let place ← child parent last
    if fs.isDirectory place then .error .isDirectory
    else match contents? place with
      | some contents =>
        if (Route.ofName name).directory then .error .notDirectory else contents
      | none => .error .notFound

/-- The text of a file. -/
def read (fs : Files) (name : String) : Except FileFault String := fs.find fs.contents? name

/-- The text of a file that keeps what is written to it; other files do not count. -/
def readKept (fs : Files) (name : String) : Except FileFault String :=
  fs.find (fun place => (fs.text? place).map .ok) name

/-- The place of a file that is to be written, which need not be there yet. A name that ends in a
slash is refused before its last part is looked up. -/
def writable (fs : Files) (name : String) : Except FileFault Place := do
  match ← fs.targetOf name with
  | .directory _ => .error .isDirectory
  | .entry parent last =>
    if (Route.ofName name).directory then .error .isDirectory
    else
      let place ← child parent last
      if fs.isDirectory place then .error .isDirectory else .ok place

/-- Writes a file whose directory is there. -/
def create (fs : Files) (name text : String) : Except FileFault Files := do
  let place ← fs.writable name
  match (fs.device? place).bind (·.fault? text) with
  | some fault => .error fault
  | none => return fs.put place text

/-- Opens a file to add to it: it is there afterwards, and keeps what it has. -/
def openToAppend (fs : Files) (name : String) : Except FileFault (Place × Files) := do
  let place ← fs.writable name
  return (place, if fs.isFile place then fs else fs.put place "")

/-- Adds to the end of a file. -/
def append (fs : Files) (place : Place) (text : String) : Files :=
  fs.put place (((fs.text? place).getD "") ++ text)

/-! ## Directories -/

/-- Makes one directory in a directory that is there. -/
def makeDirectory (fs : Files) (r : Route) : Except FileFault Files := do
  match Route.fault? r.name with
  | some fault => .error fault
  | none =>
    match ← fs.target r with
    | .directory _ => .error .alreadyExists
    | .entry parent last =>
      let place ← child parent last
      if fs.isDirectory place || fs.isFile place then .error .alreadyExists
      else .ok { fs with directories := place :: fs.directories }

/-- Makes a directory unless there is one. -/
def ensureDirectory (fs : Files) (r : Route) : Except FileFault Files :=
  match fs.makeDirectory r with
  | .ok fs => .ok fs
  | .error fault => if (fs.walk r r.parts).isOk then .ok fs else .error fault

/-- How a change of the files went, and the files afterwards: a change that fails may have gone part
of the way. -/
structure Change where
  fault? : Option FileFault
  files : Files

/-- The change of an operation that does all or nothing. -/
def Change.ofResult (fs : Files) : Except FileFault Files → Change
  | .ok fs => ⟨none, fs⟩
  | .error fault => ⟨some fault, fs⟩

/-- The change, and another one after it unless it failed. -/
def Change.andThen (c : Change) (next : Files → Change) : Change :=
  match c.fault? with
  | none => next c.files
  | some _ => c

/-- Makes a directory and, if it has nowhere to go, those above it; the parts of the route to it are
given from last to first. -/
def makeDirectories (fs : Files) (absolute : Bool) : List String → Change
  | [] => ⟨none, fs⟩
  | part :: above =>
    let r : Route := { absolute, parts := (part :: above).reverse }
    match fs.ensureDirectory r with
    | .error .notFound =>
      (fs.makeDirectories absolute above).andThen fun fs => .ofResult fs (fs.ensureDirectory r)
    | result => .ofResult fs result

/-- Writes a file, and makes the directories it goes to. -/
def save (fs : Files) (name text : String) : Change :=
  let made : Change := match (Route.ofName name).parent? with
    | none => ⟨none, fs⟩
    | some r => fs.makeDirectories r.absolute r.parts.reverse
  made.andThen fun fs => .ofResult fs (fs.create name text)

/-- The files of some names and texts, with the directories they need. -/
def ofList (entries : List (String × String)) : Files :=
  entries.foldl (fun fs (name, text) => (fs.save name text).files) {}

end Files

end StationBench
