import RouteSchema.Regex.Search

/-!
# Tags of YAML

The standard tags and the tags that the texts of plain scalars imply in YAML 1.1: truth values,
numbers, null, times, the merge key and the default value.

* `Tag.ofPlain` gives the tag of a plain scalar.
-/

namespace RouteSchema.Yaml.Tag

/-- The beginning of the standard tags. -/
def standard : String := "tag:yaml.org,2002:"

/-- A truth value. -/
def bool : String := standard ++ "bool"

/-- A floating-point number. -/
def float : String := standard ++ "float"

/-- An integer. -/
def int : String := standard ++ "int"

/-- The key whose value is merged into the mapping. -/
def merge : String := standard ++ "merge"

/-- No value. -/
def null : String := standard ++ "null"

/-- A date or a moment. -/
def timestamp : String := standard ++ "timestamp"

/-- The key of a mapping's default value. -/
def value : String := standard ++ "value"

/-- A text. -/
def str : String := standard ++ "str"

/-- A sequence. -/
def seq : String := standard ++ "seq"

/-- A mapping. -/
def map : String := standard ++ "map"

/-- A set. -/
def set : String := standard ++ "set"

/-- A mapping as a list of pairs. -/
def omap : String := standard ++ "omap"

/-- A list of pairs. -/
def pairs : String := standard ++ "pairs"

/-- Bytes. -/
def binary : String := standard ++ "binary"

/-- The program of an expression; one that matches nothing if the expression is none. -/
def pattern (source : String) : Regex.Program :=
  match Regex.read source {} with
  | .ok p => p
  | .error _ => ⟨.char (.oneOf [] false), {}, 0⟩

/-- The tags of plain scalars: each with the characters the scalar may start with and the
expression it matches, in the order in which they are tried. -/
def implicit : List (String × String × Regex.Program) := [
  (bool, "yYnNtTfFoO", pattern
    "^(?:yes|Yes|YES|no|No|NO|true|True|TRUE|false|False|FALSE|on|On|ON|off|Off|OFF)$"),
  (float, "-+0123456789.", pattern (
    "^(?:[-+]?(?:[0-9][0-9_]*)\\.[0-9_]*(?:[eE][-+][0-9]+)?" ++
    "|\\.[0-9][0-9_]*(?:[eE][-+][0-9]+)?" ++
    "|[-+]?[0-9][0-9_]*(?::[0-5]?[0-9])+\\.[0-9_]*" ++
    "|[-+]?\\.(?:inf|Inf|INF)|\\.(?:nan|NaN|NAN))$")),
  (int, "-+0123456789", pattern (
    "^(?:[-+]?0b[0-1_]+|[-+]?0[0-7_]+|[-+]?(?:0|[1-9][0-9_]*)|[-+]?0x[0-9a-fA-F_]+" ++
    "|[-+]?[1-9][0-9_]*(?::[0-5]?[0-9])+)$")),
  (merge, "<", pattern "^(?:<<)$"),
  (null, "~nN", pattern "^(?:~|null|Null|NULL|)$"),
  (timestamp, "0123456789", pattern (
    "^(?:[0-9][0-9][0-9][0-9]-[0-9][0-9]-[0-9][0-9]" ++
    "|[0-9][0-9][0-9][0-9]-[0-9][0-9]?-[0-9][0-9]?(?:[Tt]|[ \\t]+)[0-9][0-9]?:[0-9][0-9]" ++
    ":[0-9][0-9](?:\\.[0-9]*)?(?:[ \\t]*(?:Z|[-+][0-9][0-9]?(?::[0-9][0-9])?))?)$")),
  (value, "=", pattern "^(?:=)$")]

/-- The tag that the text of a plain scalar implies. An empty text is null. -/
def ofPlain (text : String) : String :=
  match text.toList with
  | [] => null
  | c :: cs =>
    let fits : String × String × Regex.Program → Bool := fun (_, starts, p) =>
      starts.toList.contains c && (p.matchAt false (.start (c :: cs))).isSome
    ((implicit.find? fits).map Prod.fst).getD str

end RouteSchema.Yaml.Tag
