/-!
# Binary floating point

The numbers of the binary64 format, held exactly: a sign, an integral significand and a binary
exponent, beside the infinities and one not-a-number. Arithmetic is exact on the naturals and
rounds once, to the nearest number of the format, a tie to the even significand.

* `Binary64.ofRatio` rounds a quotient, and every other constructor goes through it.
* `Binary64.ofDecimal` reads `digits * 10 ^ power`.
* `Binary64.toInt?` and `Binary64.sameInt` relate a number to the integers exactly.
-/

namespace RouteSchema

/-- A number of the binary64 format. `finite` stands for `± significand * 2 ^ exponent`. -/
inductive Binary64
  | nan
  | infinite (negative : Bool)
  | finite (negative : Bool) (significand : Nat) (exponent : Int)
  deriving DecidableEq, Repr, Inhabited

namespace Binary64

/-- The number of digits of a significand of full length. -/
def precision : Nat := 53

/-- The least exponent, that of the subnormal numbers. -/
def leastExponent : Int := -1074

/-- The exponent of the largest numbers. -/
def greatestExponent : Int := 971

/-- Zero with a sign. -/
def zero (negative : Bool) : Binary64 := .finite negative 0 leastExponent

/-- Numbers as `ofRatio` makes them: the significand is of full length unless the exponent is the
least one. -/
def Canonical : Binary64 → Prop
  | .finite _ m e =>
    m < 1 <<< precision ∧ leastExponent ≤ e ∧ e ≤ greatestExponent ∧
      (e = leastExponent ∨ 1 <<< (precision - 1) ≤ m)
  | _ => True

/-- The number of binary digits of `n`. -/
def bitLength (n : Nat) : Nat := if n = 0 then 0 else n.log2 + 1

/-- `numerator / denominator` as a quotient of naturals after division by `2 ^ exponent`. -/
def scaled (numerator denominator : Nat) (exponent : Int) : Nat × Nat :=
  if 0 ≤ exponent then (numerator, denominator <<< exponent.toNat)
  else (numerator <<< (-exponent).toNat, denominator)

/-- The quotient of two naturals rounded to a natural, a tie to the even one. -/
def divNearest (numerator denominator : Nat) : Nat :=
  let q := numerator / denominator
  let twice := 2 * (numerator % denominator)
  if twice > denominator || (twice == denominator && q % 2 == 1) then q + 1 else q

/-- The exponent at which `numerator / denominator` has a significand of full length. -/
def exponentOf (numerator denominator : Nat) : Int :=
  let guess : Int := (bitLength numerator : Int) - bitLength denominator - precision
  let (n, d) := scaled numerator denominator guess
  let exact := if n / d < 1 <<< (precision - 1) then guess - 1 else
    if n / d < 1 <<< precision then guess else guess + 1
  max exact leastExponent

/-- The number nearest to `± numerator / denominator`. -/
def ofRatio (negative : Bool) (numerator denominator : Nat) : Binary64 :=
  if numerator = 0 ∨ denominator = 0 then zero negative
  else
    let e := exponentOf numerator denominator
    let (n, d) := scaled numerator denominator e
    let q := divNearest n d
    let (m, e) := if q = 1 <<< precision then (1 <<< (precision - 1), e + 1) else (q, e)
    if e > greatestExponent then .infinite negative else .finite negative m e

/-- The number nearest to `± significand * 2 ^ exponent`. -/
def ofScaled (negative : Bool) (significand : Nat) (exponent : Int) : Binary64 :=
  if 0 ≤ exponent then ofRatio negative (significand <<< exponent.toNat) 1
  else ofRatio negative significand (1 <<< (-exponent).toNat)

/-- The number nearest to `± digits * 10 ^ power`. Powers far outside the range of the format are
settled without computing them. -/
def ofDecimal (negative : Bool) (digits : Nat) (power : Int) : Binary64 :=
  if digits = 0 then zero negative
  else
    let magnitude : Int := ((bitLength digits : Int) * 30103) / 100000 + power
    if magnitude > 320 then .infinite negative
    else if magnitude < -340 then zero negative
    else if 0 ≤ power then ofRatio negative (digits * Nat.pow 10 power.toNat) 1
    else ofRatio negative digits (Nat.pow 10 (-power).toNat)

/-- The number nearest to an integer; an infinity where it exceeds the format. -/
def ofInt (i : Int) : Binary64 := ofRatio (i < 0) i.natAbs 1

/-- The value as `n * 2 ^ e` with the sign in `n`. -/
def signed (negative : Bool) (significand : Nat) : Int :=
  if negative then -(significand : Int) else significand

/-- The integer a number is, if it is one. -/
def toInt? : Binary64 → Option Int
  | .finite s m e =>
    if 0 ≤ e then some (signed s (m <<< e.toNat))
    else
      let d := 1 <<< (-e).toNat
      if m % d = 0 then some (signed s (m / d)) else none
  | _ => none

/-- Whether a number is an infinity of either sign. -/
def isInfinite : Binary64 → Bool
  | .infinite _ => true
  | _ => false

/-- Whether a number is zero of either sign. -/
def isZero : Binary64 → Bool
  | .finite _ m _ => m == 0
  | _ => false

/-- Whether two numbers are equal: zeros of both signs are, and a not-a-number equals nothing. -/
def same : Binary64 → Binary64 → Bool
  | .infinite s, .infinite t => s == t
  | .finite s m e, .finite t n f =>
    if m == 0 || n == 0 then m == n
    else s == t && (if e ≤ f then m == n <<< (f - e).toNat else m <<< (e - f).toNat == n)
  | _, _ => false

/-- Whether a number is equal to an integer. -/
def sameInt (x : Binary64) (i : Int) : Bool := x.toInt? == some i

/-- The opposite number. -/
def neg : Binary64 → Binary64
  | .nan => .nan
  | .infinite s => .infinite (!s)
  | .finite s m e => .finite (!s) m e

/-- The sum of two numbers, rounded once. A sum that is exactly zero is positive unless both
terms are negative. -/
def add : Binary64 → Binary64 → Binary64
  | .nan, _ | _, .nan => .nan
  | .infinite s, .infinite t => if s == t then .infinite s else .nan
  | .infinite s, _ | _, .infinite s => .infinite s
  | .finite s m e, .finite t n f =>
    let low := min e f
    let sum := signed s (m <<< (e - low).toNat) + signed t (n <<< (f - low).toNat)
    if sum = 0 then zero (s && t) else ofScaled (sum < 0) sum.natAbs low

/-- The product of two numbers, rounded once. -/
def mul : Binary64 → Binary64 → Binary64
  | .nan, _ | _, .nan => .nan
  | .infinite s, .infinite t => .infinite (s != t)
  | .infinite s, .finite t n _ => if n == 0 then .nan else .infinite (s != t)
  | .finite s m _, .infinite t => if m == 0 then .nan else .infinite (s != t)
  | .finite s m e, .finite t n f => ofScaled (s != t) (m * n) (e + f)

end Binary64

end RouteSchema
