import RouteSchema.Failure
import RouteSchema.Text.Blank

/-!
# Pairs on the command line

Parameters are given as `key=value` and headers as `key:value`. The first separator divides an item.
A later item with the same key replaces the value of the earlier one and keeps its place.
-/

namespace RouteSchema.Cli.Pairs

/-- What stands before the first separator, and what follows it. -/
def divide? (separator : List Char) : List Char → Option (List Char × List Char)
  | [] => none
  | c :: cs =>
    if separator.isPrefixOf (c :: cs) then some ([], (c :: cs).drop separator.length)
    else (divide? separator cs).map fun (key, value) => (c :: key, value)

/-- The failure of an item. -/
def badItem (separator flag item : String) : Failure :=
  .usage ("Invalid " ++ flag ++ " value '" ++ item ++ "': expected key" ++ separator ++ "value")

/-- The pair of an item: its key without blanks around it, which must not be empty, and its value,
without blanks around it where a colon divides. -/
def pair (separator flag item : String) : Except Failure (String × String) :=
  match divide? separator.toList item.toList with
  | none => .error (badItem separator flag item)
  | some (key, value) =>
    let key := Text.strip (String.ofList key)
    let value := String.ofList value
    if key == "" then .error (badItem separator flag item)
    else .ok (key, if separator == ":" then Text.strip value else value)

/-- The pairs of items. -/
def read (separator flag : String) (items : List String) :
    Except Failure (Assoc String String) := do
  return Assoc.ofList (← items.mapM (pair separator flag))

end RouteSchema.Cli.Pairs
