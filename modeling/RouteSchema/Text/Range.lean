/-!
# Tables of code-point ranges
-/

namespace RouteSchema.Text

/-- Whether a character's code point lies in one of the closed ranges. -/
def inRanges (ranges : Array (Nat × Nat)) (c : Char) : Bool :=
  ranges.any fun (first, last) => first ≤ c.toNat && c.toNat ≤ last

end RouteSchema.Text
