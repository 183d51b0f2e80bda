import RouteSchema.Number.Binary64

/-!
# Shortest decimals

The text of a floating-point number: the fewest significant digits that read back as the number,
and among those the decimal nearest to it.

* `Shortest.digits` finds the digits. A decimal with a coarser grid has fewer digits, and if a grid
  meets the interval of reals that round to the number, then one of the number's two neighbours on
  that grid lies in it; so the first grid, from coarse to fine, with such a neighbour is taken.
* `Shortest.Layout` is what a format decides: where exponents begin, and the names of the
  infinities.
-/

namespace RouteSchema.Shortest

/-- A decimal `digits * 10 ^ power`. -/
structure Decimal where
  digits : Nat
  power : Int
  deriving DecidableEq, Repr

/-- The reals that round to `significand * 2 ^ exponent`, in quarters of the last place: the lower
and the upper end, and whether the ends belong to the interval. -/
structure Interval where
  lower : Nat
  upper : Nat
  closed : Bool

/-- The rounding interval of a significand. Below a power of two the spacing halves. -/
def Interval.ofSignificand (m : Nat) (e : Int) : Interval where
  lower := if m = 1 <<< (Binary64.precision - 1) ∧ e > Binary64.leastExponent then 4 * m - 1
    else 4 * m - 2
  upper := 4 * m + 2
  closed := m % 2 == 0

/-- Whether `n / d` quarters lie in the interval. -/
def Interval.contains (i : Interval) (n d : Nat) : Bool :=
  if i.closed then i.lower * d ≤ n && n ≤ i.upper * d else i.lower * d < n && n < i.upper * d

/-- The neighbour of `m * 2 ^ e` on the grid of multiples of `10 ^ power` that rounds to it, if
there is one. Of two such neighbours it is the nearer, and of two equally near the even one. -/
def onGrid? (m : Nat) (e power : Int) : Option Nat :=
  let quarter := e - 2
  let left := Nat.pow 10 (-power).toNat <<< quarter.toNat
  let right := Nat.pow 10 power.toNat <<< (-quarter).toNat
  let interval := Interval.ofSignificand m e
  let value := 4 * m * left
  let below := value / right
  let fits (d : Nat) : Bool := interval.contains (d * right) left
  let nearer :=
    let twice := 2 * (value % right)
    if twice > right || (twice == right && below % 2 == 1) then below + 1 else below
  if fits nearer then some nearer
  else if fits below then some below
  else if fits (below + 1) then some (below + 1)
  else none

/-- The first decimal on the grids `10 ^ power`, `10 ^ (power - 1)`, … that rounds to
`m * 2 ^ e`. -/
def search (m : Nat) (e : Int) : Nat → Int → Decimal
  | 0, power => ⟨(onGrid? m e power).getD m, power⟩
  | fuel + 1, power =>
    match onGrid? m e power with
    | some d => ⟨d, power⟩
    | none => search m e fuel (power - 1)

/-- The shortest decimal that rounds to `m * 2 ^ e`, for a positive significand. -/
def digits (m : Nat) (e : Int) : Decimal :=
  search m e 24 (((Binary64.bitLength m : Int) + e) * 30103 / 100000 + 1)

/-- What a format decides about the text of a number. -/
structure Layout where
  nan : String
  infinity : String
  /-- The point stands right of the first digit by at least this much where no exponent is
  written. -/
  leastPoint : Int
  /-- The point stands right of the first digit by at most this much where no exponent is
  written. -/
  greatestPoint : Int

/-- Texts of values: an exponent is written below one ten-thousandth and from ten to the sixteenth
on. -/
def Layout.display : Layout := ⟨"nan", "inf", -3, 16⟩

/-- Numbers of JSON texts. -/
def Layout.json : Layout := ⟨"NaN", "Infinity", -3, 16⟩

/-- `n` zeros. -/
def zeros (n : Nat) : String := String.ofList (List.replicate n '0')

/-- The exponent part of a number: a sign and at least two digits. -/
def exponentText (x : Int) : String :=
  let n := toString x.natAbs
  "e" ++ (if x < 0 then "-" else "+") ++ (if n.length < 2 then "0" ++ n else n)

/-- The text of a decimal. -/
def Layout.decimalText (layout : Layout) (d : Decimal) : String :=
  let ds := toString d.digits
  let count := ds.length
  let point : Int := count + d.power
  if layout.leastPoint ≤ point ∧ point ≤ layout.greatestPoint then
    if point ≤ 0 then "0." ++ zeros (-point).toNat ++ ds
    else if point < count then
      String.ofList (ds.toList.take point.toNat) ++ "." ++
        String.ofList (ds.toList.drop point.toNat)
    else ds ++ zeros (point - count).toNat ++ ".0"
  else
    let mantissa :=
      if count ≤ 1 then ds
      else String.ofList (ds.toList.take 1) ++ "." ++ String.ofList (ds.toList.drop 1)
    mantissa ++ exponentText (point - 1)

/-- The text of a number. -/
def Layout.text (layout : Layout) : Binary64 → String
  | .nan => layout.nan
  | .infinite s => (if s then "-" else "") ++ layout.infinity
  | .finite s m e =>
    (if s then "-" else "") ++ (if m = 0 then "0.0" else layout.decimalText (digits m e))

end RouteSchema.Shortest
