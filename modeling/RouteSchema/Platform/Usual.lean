import RouteSchema.Platform
import RouteSchema.Text.Charset
import RouteSchema.Text.Identifier

/-!
# The usual platform

A platform with a stack for everything that is met, an output that takes every text, no halves of
surrogate pairs, and no names of characters. Its further encodings are those that make bytes of bytes.

* `Platform.usual` is the platform.
-/

namespace RouteSchema.Platform

/-! ## Hosts -/

/-- A label of a host: letters, digits and hyphens, no hyphen at its ends. -/
def isLabel (cs : List Char) : Bool :=
  !cs.isEmpty && cs.head? != some '-' && cs.getLast? != some '-' &&
    cs.all fun c => c == '-' || (Text.isIdentifierPart c && c != '_')

/-- The points between the labels of a host. -/
def isLabelEnd (c : Char) : Bool :=
  c == '.' || c.toNat == 0x3002 || c.toNat == 0xff0e || c.toNat == 0xff61

/-- A host with letters of any script. -/
def isNamedHost (cs : List Char) : Bool :=
  let labels := (cs.map fun c => if isLabelEnd c then '.' else c).splitOn '.'
  let labels := if labels.getLast? == some [] then labels.dropLast else labels
  !labels.isEmpty && labels.all isLabel

/-! ## Sets -/

/-- An integer among integers in ascending order. -/
def insertAscending (i : Int) : List Int → List Int
  | [] => [i]
  | j :: rest => if i ≤ j then i :: j :: rest else j :: insertAscending i rest

/-- Integers in ascending order; other items as they stand. -/
def ascending (xs : List Value) : List Value :=
  match xs.mapM Value.int? with
  | some is => (is.foldr insertAscending []).map .int
  | none => xs

/-! ## Encodings -/

/-- The encodings that make no text. -/
def transfers : List String := [
  "base64", "base64_codec", "base_64", "bz2", "bz2_codec", "hex", "hex_codec", "idna", "quopri",
  "quopri_codec", "quoted_printable", "quotedprintable", "rot13", "rot_13", "undefined", "uu",
  "uu_codec", "zip", "zlib", "zlib_codec"]

/-- A further encoding by its name. -/
def transfer? (name : String) : Option (List UInt8 → Except Breakdown String) :=
  if transfers.contains (Charset.normalName name) then some fun _ => .error (.notText "") else none

/-! ## The platform -/

/-- The usual platform. -/
@[reducible] def usual : Platform where
  exhausts _ := false
  refuses _ := none
  encoding? := transfer?
  characterNamed? _ := none
  isUnpaired _ := false
  encodesHost := isNamedHost
  enumerated := ascending
  canPause _ := true

end RouteSchema.Platform
