import RouteSchema.Assoc
import RouteSchema.Calendar
import RouteSchema.Number.Binary64

/-!
# Values

The values that schema documents, attributes, parameters and answers hold. A document format yields
texts, numbers, dates and containers; an application may add any object of its own, which is held by
name and never looked into (`handle`).

* `Value.same` is equality of values: numbers are equal if their values are, whatever their kind.
* `Value.truthy` tells the empty and zero values from the others.
-/

namespace RouteSchema

/-- A value. The entries of a dictionary have distinct keys and stand in insertion order; the items
of a set stand in the order in which it is enumerated. -/
inductive Value
  | null
  | bool (b : Bool)
  | int (i : Int)
  | float (x : Binary64)
  | text (s : String)
  | bytes (bs : List UInt8)
  | date (d : Calendar.Date)
  | moment (m : Calendar.Moment)
  | list (items : List Value)
  | tuple (items : List Value)
  | set (items : List Value)
  | dict (entries : List (Value × Value))
  | handle (name : String)
  deriving Inhabited, Repr

namespace Value

/-- The largest number of decimal digits of an integer that is read from a text or written as one. -/
def digitLimit : Nat := 4300

/-- The wording of the lack of a text. -/
def tooManyDigits : String :=
  "Exceeds the limit (" ++ toString digitLimit ++ " digits) for integer string conversion"

/-- A number as an integer or a floating-point number; truth values count as 0 and 1. -/
def number? : Value → Option (Int ⊕ Binary64)
  | .bool b => some (.inl (if b then 1 else 0))
  | .int i => some (.inl i)
  | .float x => some (.inr x)
  | _ => none

/-- The integer a value is. -/
def int? : Value → Option Int
  | .int i => some i
  | _ => none

/-- The text a value is. -/
def text? : Value → Option String
  | .text s => some s
  | _ => none

/-- The entries of a dictionary. -/
def dict? : Value → Option (List (Value × Value))
  | .dict es => some es
  | _ => none

/-- Whether a value holds other values. -/
def isContainer : Value → Bool
  | .list _ | .tuple _ | .set _ | .dict _ => true
  | _ => false

/-- Equality of numbers by value. -/
def sameNumber : Int ⊕ Binary64 → Int ⊕ Binary64 → Bool
  | .inl i, .inl j => i == j
  | .inl i, .inr y => y.sameInt i
  | .inr x, .inl j => x.sameInt j
  | .inr x, .inr y => x.same y

/-- Equality of values without parts. -/
def sameLeaf (a b : Value) : Bool :=
  match a.number?, b.number? with
  | some x, some y => sameNumber x y
  | none, none =>
    match a, b with
    | .null, .null => true
    | .text s, .text t => s == t
    | .bytes s, .bytes t => s == t
    | .date d, .date e => d == e
    | .moment m, .moment n => m.same n
    | .handle s, .handle t => s == t
    | _, _ => false
  | _, _ => false

mutual

/-- Equality of values. Dictionaries and sets are equal whatever the order of their parts. -/
def same : Value → Value → Bool
  | .list xs, b => match b with
    | .list ys => sameList xs ys
    | _ => false
  | .tuple xs, b => match b with
    | .tuple ys => sameList xs ys
    | _ => false
  | .set xs, b => match b with
    | .set ys => xs.length == ys.length && includedIn xs ys
    | _ => false
  | .dict es, b => match b with
    | .dict fs => es.length == fs.length && agreesWith es fs
    | _ => false
  | a, b => sameLeaf a b

/-- Equality of sequences. -/
def sameList : List Value → List Value → Bool
  | [], [] => true
  | x :: xs, y :: ys => same x y && sameList xs ys
  | _, _ => false

/-- Every item is equal to one of `ys`. -/
def includedIn : List Value → List Value → Bool
  | [], _ => true
  | x :: xs, ys => ys.any (fun y => same x y) && includedIn xs ys

/-- Every entry is equal to one of `fs`, by key and by value. -/
def agreesWith : List (Value × Value) → List (Value × Value) → Bool
  | [], _ => true
  | (k, v) :: es, fs => fs.any (fun (k', v') => same k k' && same v v') && agreesWith es fs

end

instance : BEq Value := ⟨same⟩

@[simp] theorem text_beq_text (s t : String) : (text s == text t) = (s == t) := by
  show same (text s) (text t) = _
  simp [same, sameLeaf, number?]

/-- Only a text equals a text. -/
theorem eq_of_beq_text {v : Value} {s : String} (h : (v == text s) = true) : v = text s := by
  change same v (text s) = true at h
  cases v <;> simp_all [same, sameLeaf, number?]

/-- Every value but the null value, false, zeros and empty texts and containers. -/
def truthy : Value → Bool
  | .null => false
  | .bool b => b
  | .int i => i != 0
  | .float x => !x.isZero
  | .text s => s != ""
  | .bytes bs => !bs.isEmpty
  | .list xs | .tuple xs | .set xs => !xs.isEmpty
  | .dict es => !es.isEmpty
  | .date _ | .moment _ | .handle _ => true

/-- The name of a value's type. -/
def typeName : Value → String
  | .null => "NoneType"
  | .bool _ => "bool"
  | .int _ => "int"
  | .float _ => "float"
  | .text _ => "str"
  | .bytes _ => "bytes"
  | .date _ => "date"
  | .moment _ => "datetime"
  | .list _ => "list"
  | .tuple _ => "tuple"
  | .set _ => "set"
  | .dict _ => "dict"
  | .handle _ => "object"

/-- The values of a list without later repetitions of an equal one. -/
def distinct (xs : List Value) : List Value :=
  xs.foldl (fun acc x => if acc.any (fun y => same y x) then acc else acc ++ [x]) []

mutual

/-- Whether a value may be a key: nothing in it can change. -/
def hashable : Value → Bool
  | .list _ | .set _ | .dict _ => false
  | .tuple xs => hashableAll xs
  | _ => true

/-- Whether all values may be keys. -/
def hashableAll : List Value → Bool
  | [] => true
  | x :: xs => hashable x && hashableAll xs

end

end Value

/-- A mapping between values. -/
abbrev Dict := Assoc Value Value

/-- The value of a text key. -/
def Dict.getText? (d : Dict) (key : String) : Option Value := Assoc.get? d (.text key)

@[simp] theorem Dict.getText?_cons (name key : String) (v : Value) (d : Dict) :
    Dict.getText? ((.text name, v) :: d) key = if name = key then some v else d.getText? key := by
  simp [Dict.getText?, Assoc.get?]

@[simp] theorem Dict.getText?_nil (key : String) : Dict.getText? [] key = none := rfl

end RouteSchema
