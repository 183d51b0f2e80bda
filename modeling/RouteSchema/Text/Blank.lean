/-!
# Blank characters

White space, and texts stripped of it at both ends.
-/

namespace RouteSchema.Text

/-- White space: the controls from tab to carriage return and from the file separator to the unit
separator, the space, and the space, line and paragraph separators of Unicode. -/
def isBlank (c : Char) : Bool :=
  let n := c.toNat
  (0x9 ≤ n && n ≤ 0xd) || (0x1c ≤ n && n ≤ 0x20) || n == 0x85 || n == 0xa0 || n == 0x1680 ||
    (0x2000 ≤ n && n ≤ 0x200a) || n == 0x2028 || n == 0x2029 || n == 0x202f || n == 0x205f ||
    n == 0x3000

/-- A list of characters without those at its end that satisfy `p`. -/
def dropEndWhile (p : Char → Bool) (cs : List Char) : List Char :=
  (cs.reverse.dropWhile p).reverse

/-- A list of characters without those at either end that satisfy `p`. -/
def trimWhile (p : Char → Bool) (cs : List Char) : List Char :=
  dropEndWhile p (cs.dropWhile p)

/-- A text without the white space at its ends. -/
def strip (s : String) : String := String.ofList (trimWhile isBlank s.toList)

/-- A text without the white space at its end. -/
def stripEnd (s : String) : String := String.ofList (dropEndWhile isBlank s.toList)

/-- A text of white space only. -/
def isBlankText (s : String) : Bool := s.toList.all isBlank

end RouteSchema.Text
