/-!
# Sorted texts

Texts in the order of their code points.
-/

namespace RouteSchema.Text

/-- Texts in ascending order. -/
def sorted (xs : List String) : List String := xs.mergeSort fun a b => !decide (b < a)

end RouteSchema.Text
