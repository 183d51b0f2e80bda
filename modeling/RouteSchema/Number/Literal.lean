import RouteSchema.Text.Blank
import RouteSchema.Text.Word
import RouteSchema.Value.Basic

/-!
# Number literals

Numbers written as texts: integers in a base and floating-point numbers in decimal, with a sign and
blanks around them.
-/

namespace RouteSchema.Literal

/-- The value of a digit of a base up to sixteen. -/
def digit? (base : Nat) (c : Char) : Option Nat :=
  let n :=
    if '0' ≤ c && c ≤ '9' then c.toNat - 48
    else if 'a' ≤ c && c ≤ 'f' then c.toNat - 87
    else if 'A' ≤ c && c ≤ 'F' then c.toNat - 55
    else base
  if n < base then some n else none

/-- The natural number of a non-empty list of digits. -/
def natural? (base : Nat) (cs : List Char) : Option Nat :=
  if cs.isEmpty then none
  else (cs.mapM (digit? base)).map fun ds => ds.foldl (fun n d => n * base + d) 0

/-- A sign, if there is one, and what follows it. -/
def splitSign : List Char → Bool × List Char
  | '-' :: cs => (true, cs)
  | '+' :: cs => (false, cs)
  | cs => (false, cs)

/-- Digits behind the mark of their base, `0b`, `0o` or `0x`, which may be missing. -/
def withoutMark (base : Nat) : List Char → List Char
  | '0' :: c :: cs =>
    let mark := if base == 2 then 'b' else if base == 8 then 'o' else 'x'
    if base != 10 && c.toLower == mark then cs else '0' :: c :: cs
  | cs => cs

/-- The integer of a text in a base, in the digits of any script. In base ten there are as many
digits as an integer is read from. -/
def int? (base : Nat) (cs : List Char) : Option Int :=
  let (negative, cs) := splitSign (Text.trimWhile Text.isBlank cs)
  let digits := withoutMark base (cs.map Text.plainDigit)
  if base == 10 && digits.length > Value.digitLimit then none
  else (natural? base digits).map fun n => if negative then -(n : Int) else n

/-- The exponent part of a decimal: nothing, or a letter, a sign and digits. -/
def exponent? : List Char → Option Int
  | [] => some 0
  | c :: cs =>
    if c == 'e' || c == 'E' then
      let (negative, ds) := splitSign cs
      (natural? 10 ds).map fun n => if negative then -(n : Int) else n
    else none

/-- The number of a decimal without a sign: digits with a point before, among or behind them, and an
exponent. -/
def decimal? (negative : Bool) (cs : List Char) : Option Binary64 :=
  let whole := cs.takeWhile Char.isDigit
  let (places, rest) := match cs.dropWhile Char.isDigit with
    | '.' :: cs => (cs.takeWhile Char.isDigit, cs.dropWhile Char.isDigit)
    | cs => ([], cs)
  if whole.isEmpty && places.isEmpty then none
  else do
    let e ← exponent? rest
    let n ← natural? 10 (whole ++ places)
    return .ofDecimal negative n (e - places.length)

/-- The floating-point number of a text without blanks around it: a decimal, or the name of an
infinity or of not-a-number in letters of either case. -/
def bareFloat? (cs : List Char) : Option Binary64 :=
  let (negative, cs) := splitSign cs
  let name := String.ofList (cs.map Char.toLower)
  if name == "inf" || name == "infinity" then some (.infinite negative)
  else if name == "nan" then some .nan
  else decimal? negative cs

/-- The floating-point number of a text, in the digits of any script. -/
def float? (cs : List Char) : Option Binary64 :=
  bareFloat? ((Text.trimWhile Text.isBlank cs).map Text.plainDigit)

end RouteSchema.Literal
