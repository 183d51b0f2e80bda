import RouteSchema.Failure
import RouteSchema.FileName

/-!
# The world

What the computation of a value can see and change: environment variables, files, and counters that
an application draws numbers from.

* `Eval` is the type of such computations: they yield a value or fail, and leave a world behind in
  either case.
* `World.find` looks a file name up.
-/

namespace RouteSchema

/-- A file with its bytes, or a directory. -/
inductive Entry
  | file (bytes : List UInt8)
  | directory
  deriving DecidableEq, Repr

/-- The world. Files are listed by their components below the root; the directories on the way to a
listed file exist. -/
structure World where
  /-- The working directory, an absolute name. -/
  directory : FileName
  «variables» : Assoc String String
  files : Assoc (List String) Entry
  /-- The number drawn last from each counter. -/
  counters : Nat → Nat := fun _ => 0
  /-- The home directories of users; the empty name is that of the one who runs the program. -/
  homes : String → Option String := fun _ => none

/-- What looking up a file name finds. -/
inductive Lookup
  | nothing
  | nameTooLong
  | entry (e : Entry)
  deriving DecidableEq, Repr

namespace World

/-- What a list of components below the root leads to. -/
def entryAt (w : World) (parts : List String) : Option Entry :=
  match Assoc.get? w.files parts with
  | some e => some e
  | none =>
    if (w.directory.parts :: Assoc.keys w.files).any (parts.isPrefixOf ·) then some .directory
    else none

/-- Follows components from a place, given with its innermost component first. Only directories
lead on, and a component that no file can have is told from one that is not there. -/
def follow (w : World) : List String → List String → Lookup
  | [], place => (w.entryAt place.reverse).elim .nothing .entry
  | part :: parts, place =>
    match w.entryAt place.reverse with
    | some .directory =>
      if part == ".." then follow w parts (place.drop 1)
      else if part.utf8ByteSize > FileName.componentLimit then .nameTooLong
      else follow w parts (part :: place)
    | _ => .nothing

/-- What a file name leads to. -/
def find (w : World) (f : FileName) : Lookup :=
  if f.toString.utf8ByteSize > FileName.limit then .nameTooLong
  else w.follow (w.directory.below f).parts []

/-- Writes a file. -/
def write (w : World) (f : FileName) (bytes : List UInt8) : World :=
  { w with files := Assoc.insert w.files (w.directory.below f).parts (.file bytes) }

/-- Sets or removes a variable. -/
def setVariable (w : World) (name : String) : Option String → World
  | some value => { w with «variables» := Assoc.insert w.variables name value }
  | none => { w with «variables» := Assoc.erase w.variables name }

end World

/-- Computations in the world. -/
abbrev Eval (α : Type) := ExceptT Failure (StateM World) α

namespace Eval

/-- The value of an environment variable. -/
def variableOf (name : String) : Eval (Option String) := do
  return Assoc.get? (← get).variables name

/-- The next number of a counter, the first one being 1. -/
def draw (counter : Nat) : Eval Nat := do
  let w ← get
  let n := w.counters counter + 1
  set { w with counters := fun i => if i = counter then n else w.counters i }
  return n

/-- Line breaks as line feeds: a carriage return counts as a break, alone or before a line feed. -/
def lineFeeds : List Char → List Char
  | [] => []
  | '\r' :: '\n' :: cs => '\n' :: lineFeeds cs
  | '\r' :: cs => '\n' :: lineFeeds cs
  | c :: cs => c :: lineFeeds cs

/-- What a file name leads to. A name that no file can have is a failure. -/
def entry? (f : FileName) : Eval (Option Entry) := do
  match (← get).find f with
  | .nothing => return none
  | .entry e => return some e
  | .nameTooLong =>
    throw (.system ("[Errno 36] File name too long: " ++ Text.quoted f.toString))

/-- The bytes of a file, if the name leads to a file. -/
def bytes? (f : FileName) : Eval (Option (List UInt8)) := do
  match ← entry? f with
  | some (.file bytes) => return some bytes
  | _ => return none

/-- The text of the bytes of a file. -/
def decoded (bytes : List UInt8) : Eval String :=
  match Utf8.decode bytes with
  | .ok text => return String.ofList (lineFeeds text.toList)
  | .error fault => throw (.undecodable fault)

/-- The text of a file, if the name leads to a file. -/
def text? (f : FileName) : Eval (Option String) := do
  match ← bytes? f with
  | some bytes => return some (← decoded bytes)
  | none => return none

end Eval

end RouteSchema
