import RouteSchema.Number.Shortest
import RouteSchema.Text.Quoted
import RouteSchema.Value.Basic

/-!
# Texts of values

`Value.display` is the text of a value as it is substituted into an address or a message;
`Value.literal` shows its type as well, with texts in quotes, and is how values appear inside the
display of a container. `Value.printable` tells the values that have a text.
-/

namespace RouteSchema.Value

/-- Texts with a separator between them. -/
def joined (separator : String) : List String → String
  | [] => ""
  | [s] => s
  | s :: rest => s ++ separator ++ joined separator rest

/-- The text of a truth value. -/
def boolText (b : Bool) : String := if b then "True" else "False"

/-- An offset from universal time as a duration of days and seconds. -/
def offsetLiteral (o : Int) : String :=
  if o == 0 then "datetime.timezone.utc"
  else
    let days := o.fdiv Calendar.secondsPerDay
    let seconds := o.fmod Calendar.secondsPerDay
    let parts := (if days != 0 then ["days=" ++ toString days] else []) ++
      (if seconds != 0 then ["seconds=" ++ toString seconds] else [])
    "datetime.timezone(datetime.timedelta(" ++ joined ", " parts ++ "))"

/-- The literal of a date. -/
def dateLiteral (d : Calendar.Date) : String :=
  "datetime.date(" ++ joined ", " ([d.year, d.month, d.day].map toString) ++ ")"

/-- The literal of a moment; trailing zero seconds and microseconds are left out. -/
def momentLiteral (m : Calendar.Moment) : String :=
  let fields := [m.date.year, m.date.month, m.date.day, m.hour, m.minute] ++
    (if m.second == 0 && m.microsecond == 0 then [] else [m.second]) ++
    (if m.microsecond == 0 then [] else [m.microsecond])
  let zone := match m.offset with
    | some o => ["tzinfo=" ++ offsetLiteral o]
    | none => []
  "datetime.datetime(" ++ joined ", " (fields.map toString ++ zone) ++ ")"

/-- The items of a list in brackets. A tuple of one has a comma. -/
def bracketed (start stop : String) (items : List String) : String :=
  start ++ joined ", " items ++ stop

mutual

/-- A value as a literal. -/
def literal : Value → String
  | .null => "None"
  | .bool b => boolText b
  | .int i => toString i
  | .float x => Shortest.Layout.display.text x
  | .text s => Text.quoted s
  | .bytes bs => Text.quotedBytes bs
  | .date d => dateLiteral d
  | .moment m => momentLiteral m
  | .list xs => bracketed "[" "]" (literals xs)
  | .tuple xs => bracketed "(" (if xs.length == 1 then ",)" else ")") (literals xs)
  | .set xs => if xs.isEmpty then "set()" else bracketed "\x7b" "\x7d" (literals xs)
  | .dict es => bracketed "\x7b" "\x7d" (entryLiterals es)
  | .handle name => "opaque:" ++ name

/-- The literals of a list of values. -/
def literals : List Value → List String
  | [] => []
  | x :: xs => literal x :: literals xs

/-- The literals of the entries of a dictionary. -/
def entryLiterals : List (Value × Value) → List String
  | [] => []
  | (k, v) :: es => (literal k ++ ": " ++ literal v) :: entryLiterals es

end

/-- A value as a text. -/
def display : Value → String
  | .text s => s
  | .date d => d.text
  | .moment m => m.text " "
  | v => literal v

/-! ## Values without a text -/

/-- Whether an integer has a text. One with more digits than the limit has none. -/
@[irreducible] def isShort (i : Int) : Bool := i.natAbs < Nat.pow 10 digitLimit

theorem isShort_iff {i : Int} : isShort i = true ↔ i.natAbs < Nat.pow 10 digitLimit := by
  unfold isShort
  -- the limit is kept from being computed with
  generalize digitLimit = n
  exact decide_eq_true_iff

mutual

/-- Whether a value has a text: all the integers in it must have one. -/
def printable : Value → Bool
  | .int i => isShort i
  | .list xs | .tuple xs | .set xs => allPrintable xs
  | .dict es => entriesPrintable es
  | _ => true

/-- Whether all values have a text. -/
def allPrintable : List Value → Bool
  | [] => true
  | x :: xs => printable x && allPrintable xs

/-- Whether the keys and the values of all entries have a text. -/
def entriesPrintable : List (Value × Value) → Bool
  | [] => true
  | (k, v) :: es => printable k && printable v && entriesPrintable es

end

theorem allPrintable_iff {xs : List Value} :
    allPrintable xs = true ↔ ∀ x ∈ xs, x.printable = true := by
  induction xs with
  | nil => simp [allPrintable]
  | cons x xs ih => simp [allPrintable, ih]

theorem entriesPrintable_iff {es : List (Value × Value)} :
    entriesPrintable es = true ↔ ∀ e ∈ es, e.1.printable = true ∧ e.2.printable = true := by
  induction es with
  | nil => simp [entriesPrintable]
  | cons e es ih => simp [entriesPrintable, ih]

end RouteSchema.Value
