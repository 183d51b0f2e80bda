import RouteSchema.Value.Text

/-!
# Path templates

Joining the segments of a route onto a root address, with exactly one separator between two parts.

* `Path.join` leaves a scheme at the front of the root address alone.
-/

namespace RouteSchema.Path

/-- A text with every run of separators shortened to one. -/
def collapse : List Char → List Char
  | [] => []
  | [c] => [c]
  | c :: d :: cs => if c = '/' ∧ d = '/' then collapse (d :: cs) else c :: collapse (d :: cs)

/-- A text without the separators at its end. -/
def trimEnd (cs : List Char) : List Char := (cs.reverse.dropWhile (· == '/')).reverse

/-- A text without the separators at either end. -/
def trim (cs : List Char) : List Char := trimEnd (cs.dropWhile (· == '/'))

/-- What a segment contributes to a path. -/
def part (segment : String) : List Char := trim (collapse segment.toList)

/-- The mark between a scheme and what follows it. -/
def schemeMark : List Char := [':', '/', '/']

/-- The text before the first scheme mark, and the text after it. -/
def splitScheme? : List Char → Option (List Char × List Char)
  | [] => none
  | c :: cs =>
    if schemeMark.isPrefixOf (c :: cs) then some ([], cs.drop 2)
    else (splitScheme? cs).map fun (scheme, rest) => (c :: scheme, rest)

/-- A root address as the front of a path. -/
def head (base : List Char) : List Char :=
  match splitScheme? base with
  | some (scheme, rest) => scheme ++ schemeMark ++ trimEnd (collapse rest)
  | none => trimEnd (collapse base)

/-- The path of parts below a front. The path without front and parts is the separator alone. -/
def below (front : List Char) (parts : List (List Char)) : List Char :=
  if parts.isEmpty then (if front.isEmpty then ['/'] else front)
  else front ++ parts.flatMap ('/' :: ·)

/-- The path of segments below a root address. -/
def join (base : String) (segments : List String) : String :=
  String.ofList (below (head base.toList) ((segments.map part).filter (!·.isEmpty)))

end RouteSchema.Path
