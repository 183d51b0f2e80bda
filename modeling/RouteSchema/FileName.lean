import RouteSchema.Text.Blank
import RouteSchema.Value.Text

/-!
# File names

Names of files and directories: components below the root or below the working directory. Empty
components and single points do not count, and two points lead to the parent.
-/

namespace RouteSchema

/-- A file name. `root` holds the slashes an absolute name starts with. -/
structure FileName where
  root : String
  parts : List String
  deriving DecidableEq, Repr

namespace FileName

/-- The slashes a text starts with, as they count: exactly two are not the same as one. -/
def rootOf (cs : List Char) : String :=
  match (cs.takeWhile (· == '/')).length with
  | 0 => ""
  | 2 => "//"
  | _ => "/"

/-- The pieces of a text between slashes. -/
def pieces (cs : List Char) : List String := (cs.splitOn '/').map String.ofList

/-- The name a text writes. -/
def ofString (s : String) : FileName :=
  ⟨rootOf s.toList, (pieces s.toList).filter fun p => p != "" && p != "."⟩

/-- The text of a name. -/
def toString (f : FileName) : String :=
  if f.root == "" && f.parts.isEmpty then "." else f.root ++ Value.joined "/" f.parts

/-- A name below a directory; an absolute one stands for itself. -/
def below (directory f : FileName) : FileName :=
  if f.root == "" then ⟨directory.root, directory.parts ++ f.parts⟩ else f

/-- The ending of the last component from its last point on. A component that begins or ends with
that point has none. -/
def ending (f : FileName) : String :=
  match f.parts.getLast? with
  | none => ""
  | some name =>
    let tail := name.toList.reverse.takeWhile (· != '.')
    let before := name.toList.length - tail.length
    if before ≤ 1 || tail.isEmpty then "" else String.ofList ('.' :: tail.reverse)

/-- The largest number of bytes of a component. -/
def componentLimit : Nat := 255

/-- The largest number of bytes of a name. -/
def limit : Nat := 4095

end FileName

end RouteSchema
