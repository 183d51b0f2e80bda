import RouteSchema.Failure
import RouteSchema.Number.Literal

/-!
# Fields

Conversions of values to the types of fields. They are lenient: a number may be written as a text,
and a truth value as one of a few words. A conversion fails with the kind of the misfit.
-/

namespace RouteSchema.Field

/-- The blanks that may stand around a number: white space without the separators of files, groups,
records and units. -/
def isBlank (c : Char) : Bool := Text.isBlank c && !(0x1c ≤ c.toNat && c.toNat ≤ 0x1f)

/-- A text as a field. -/
def text : Value → Except String String
  | .text s => .ok s
  | .bytes bs => (Utf8.decode bs).mapError fun _ => "string_unicode"
  | _ => .error "string_type"

/-! ## Truth values -/

/-- The words for false. -/
def falseWords : List String := ["0", "off", "f", "false", "n", "no"]

/-- The words for true. -/
def trueWords : List String := ["1", "on", "t", "true", "y", "yes"]

/-- A number as a truth value. -/
def truthOfInt (i : Int) : Except String Bool :=
  if i = 0 then .ok false else if i = 1 then .ok true else .error "bool_parsing"

/-- The integers of 64 bits. -/
def isWord (i : Int) : Bool := Int64.minValue.toInt ≤ i && i ≤ Int64.maxValue.toInt

/-- A truth value as a field. -/
def truth : Value → Except String Bool
  | .bool b => .ok b
  | .text s =>
    let word := String.ofList (s.toList.map Char.toLower)
    if falseWords.contains word then .ok false
    else if trueWords.contains word then .ok true
    else .error "bool_parsing"
  | .int i => if isWord i then truthOfInt i else .error "bool_type"
  | .float x =>
    match x.toInt? with
    | some i => if isWord i then truthOfInt i else .error "bool_type"
    | none => .error "bool_type"
  | _ => .error "bool_type"

/-! ## Numbers -/

/-- Digits without the single underscores between them; none unless there are such. -/
def withoutUnderscores? (cs : List Char) : Option (List Char) :=
  let doubled := (cs.zip cs.tail).any fun (a, b) => a == '_' && b == '_'
  if cs.head? == some '_' || cs.getLast? == some '_' || !cs.contains '_' || doubled then none
  else some (cs.filter (· != '_'))

/-- The number of a text. -/
def numberOfText (cs : List Char) : Except String Binary64 :=
  match Literal.bareFloat? (Text.trimWhile isBlank cs) with
  | some x => .ok x
  | none =>
    match (withoutUnderscores? cs).bind Literal.bareFloat? with
    | some x => .ok x
    | none => .error "float_parsing"

/-- A number as a field. -/
def number : Value → Except String Binary64
  | .float x => .ok x
  | .bool b => .ok (.ofInt (if b then 1 else 0))
  | .int i =>
    match Binary64.ofInt i with
    | .infinite _ => .error "float_type"
    | x => .ok x
  | .text s => numberOfText s.toList
  | _ => .error "float_type"

/-! ## Integers -/

/-- What follows the zeros at the front of an integer. The last zero stays before a point and in an
integer of zeros only. -/
def afterZeros (last : Char) : List Char → Option (List Char)
  | [] => some [last]
  | c :: cs =>
    if c == '0' || c == '_' then afterZeros c cs
    else if '1' ≤ c && c ≤ '9' then some (c :: cs)
    else if c == '.' then some (last :: c :: cs)
    else none

/-- An integer without zeros at its front. -/
def withoutZeros : List Char → Option (List Char)
  | '0' :: cs => afterZeros '0' cs
  | c :: cs => if ('1' ≤ c && c ≤ '9') || c == '-' then some (c :: cs) else none
  | [] => none

/-- An integer without a point that only zeros follow. -/
def withoutPlaces (cs : List Char) : List Char :=
  match cs.dropWhile (· != '.') with
  | [] => cs
  | _ :: places => if places.all (· == '0') then cs.takeWhile (· != '.') else cs

/-- The bare digits of an integer, if it is written with anything besides them. -/
def bareInteger? (cs : List Char) : Option (List Char) := do
  let trimmed := Text.trimWhile isBlank cs
  let unsigned ← match trimmed with
    | '+' :: '-' :: _ => none
    | '+' :: rest => some rest
    | rest => some rest
  let bare := withoutPlaces (← withoutZeros unsigned)
  return (withoutUnderscores? bare).getD bare

/-- The largest number of digits of an integer. -/
def digitLimit : Nat := 4300

/-- The integer of bare digits with a sign. Among many digits underscores do not count. -/
def integer? (cs : List Char) : Option Int :=
  let (negative, digits) := Literal.splitSign cs
  let digits :=
    if cs.length ≥ 19 && digits.head? != some '_' then digits.filter (· != '_') else digits
  (Literal.natural? 10 digits).map fun n => if negative then -(n : Int) else n

/-- The integer of a text. -/
def countOfText (cs : List Char) : Except String Int :=
  let cs := (bareInteger? cs).getD cs
  if (Utf8.encode (String.ofList cs)).length > digitLimit then .error "int_parsing_size"
  else
    match integer? cs with
    | some i => .ok i
    | none => .error "int_parsing"

/-- An integer as a field. -/
def integer : Value → Except String Int
  | .int i => .ok i
  | .bool b => .ok (if b then 1 else 0)
  | .float x =>
    match x, x.toInt? with
    | .nan, _ | .infinite _, _ => .error "finite_number"
    | _, some i => if isWord i then .ok i else .error "int_parsing_size"
    | _, none => .error "int_from_float"
  | .text s => countOfText s.toList
  | _ => .error "int_type"

/-- A natural number as a field. -/
def count (v : Value) : Except String Nat := do
  match ← integer v with
  | .ofNat n => return n
  | .negSucc _ => throw "greater_than_equal"

/-! ## Several fields -/

/-- The faults of a field: none if its conversion succeeds. -/
def faults {α : Type} (location : List String) : Except String α → List FieldFault
  | .ok _ => []
  | .error kind => [⟨location, kind⟩]

end RouteSchema.Field
