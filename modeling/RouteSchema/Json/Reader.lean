import RouteSchema.Number.Literal
import RouteSchema.Platform

/-!
# Reading JSON

JSON texts as values. Members keep their order; of members with one name the last value counts, at
the place of the first. Besides the grammar of JSON the numbers `NaN`, `Infinity` and `-Infinity`
are read. A text that is not JSON has a fault at a character offset, and the fault is worded with
line, column and offset. Half of a surrogate pair by itself is no character; the replacement
character stands for it, and whether the output takes a text with one is left to the platform.

* `Json.read` reads a whole text, and `Json.readAt` reads it where the stack may not suffice.
* `Fault.message` words a fault.
-/

namespace RouteSchema.Json

/-- What is wrong with a text at an offset. -/
inductive Flaw
  | byteOrderMark
  | expectedValue
  | expectedName
  | expectedColon
  | expectedComma
  | extraData
  | controlCharacter
  | badEscape
  | badUnicodeEscape
  | unterminatedText
  deriving DecidableEq, Repr

/-- Why a text is not read. -/
inductive Fault
  /-- The text is not JSON: a flaw at a character offset. -/
  | malformed (flaw : Flaw) (offset : Nat)
  /-- An integer has more digits than are read. -/
  | tooManyDigits
  /-- The text nests deeper than the stack allows. -/
  | tooDeep
  deriving DecidableEq, Repr

/-- The wording of a flaw. -/
def Flaw.message : Flaw → String
  | .byteOrderMark => "Unexpected UTF-8 BOM (decode using utf-8-sig)"
  | .expectedValue => "Expecting value"
  | .expectedName => "Expecting property name enclosed in double quotes"
  | .expectedColon => "Expecting ':' delimiter"
  | .expectedComma => "Expecting ',' delimiter"
  | .extraData => "Extra data"
  | .controlCharacter => "Invalid control character at"
  | .badEscape => "Invalid \\escape"
  | .badUnicodeEscape => "Invalid \\uXXXX escape"
  | .unterminatedText => "Unterminated string starting at"

/-- The number of line feeds before an offset and the number of characters since the last one. -/
def lineAndColumn (cs : List Char) (offset : Nat) : Nat × Nat :=
  (cs.take offset).foldl (fun (l, c) ch => if ch == '\n' then (l + 1, 1) else (l, c + 1)) (1, 1)

/-- The wording of a fault of a text. -/
def Fault.message (text : String) : Fault → String
  | .malformed flaw offset =>
    let (line, column) := lineAndColumn text.toList offset
    flaw.message ++ ": line " ++ toString line ++ " column " ++ toString column ++ " (char " ++
      toString offset ++ ")"
  | .tooManyDigits => Value.tooManyDigits
  | .tooDeep => Breakdown.tooDeep.message

/-- A result, the offset after it and the characters from there on. -/
abbrev Step (α : Type) := α × Nat × List Char

/-- The white space of JSON. -/
def isSpace (c : Char) : Bool := c == ' ' || c == '\t' || c == '\n' || c == '\r'

/-- Skips white space. -/
def skipSpace : Nat → List Char → Nat × List Char
  | pos, [] => (pos, [])
  | pos, c :: cs => if isSpace c then skipSpace (pos + 1) cs else (pos, c :: cs)

/-- The value of four hexadecimal digits. -/
def hex4? (a b c d : Char) : Option Nat := do
  let a ← Literal.digit? 16 a
  let b ← Literal.digit? 16 b
  let c ← Literal.digit? 16 c
  let d ← Literal.digit? 16 d
  return ((a * 16 + b) * 16 + c) * 16 + d

/-- The character of an escape of two characters. -/
def shortEscape? : Char → Option Char
  | '"' => some '"'
  | '\\' => some '\\'
  | '/' => some '/'
  | 'b' => some '\x08'
  | 'f' => some '\x0c'
  | 'n' => some '\n'
  | 'r' => some '\r'
  | 't' => some '\t'
  | _ => none

/-- The character of a code unit; a half of a surrogate pair by itself is no character and becomes
the replacement character. -/
def unitChar (u : Nat) : Char :=
  if u.isValidChar then Char.ofNat u else Char.ofNat 0xfffd

/-- Whether two code units are a surrogate pair. -/
def isPair (u v : Nat) : Bool := 0xd800 ≤ u && u < 0xdc00 && 0xdc00 ≤ v && v < 0xe000

/-- The character of a surrogate pair. -/
def pairChar (u v : Nat) : Char := Char.ofNat (0x10000 + (u - 0xd800) * 1024 + (v - 0xdc00))

/-- The second half of a surrogate pair that `u` begins, if an escape of one follows. The text must
go on behind that escape. -/
def lowHalf? (u : Nat) (e : Char) (cs : List Char) : Except Unit (Option Nat) :=
  match e, cs with
  | '\\', 'u' :: a :: b :: c :: d :: _ :: _ =>
    if 0xd800 ≤ u && u < 0xdc00 then
      match hex4? a b c d with
      | none => .error ()
      | some v => .ok (if isPair u v then some v else none)
    else .ok none
  | _, _ => .ok none

/-- Reads the rest of a text whose opening quote stands at `start`. -/
def text (start : Nat) : Nat → List Char → List Char → Except Fault (Step String)
  | _, [], _ => .error (.malformed .unterminatedText start)
  | pos, '"' :: cs, acc => .ok (String.ofList acc.reverse, pos + 1, cs)
  | _, ['\\'], _ => .error (.malformed .unterminatedText start)
  | pos, '\\' :: 'u' :: a :: b :: c :: d :: e :: cs, acc =>
    match hex4? a b c d with
    | none => .error (.malformed .badUnicodeEscape (pos + 1))
    | some u =>
      match lowHalf? u e cs with
      | .error _ => .error (.malformed .badUnicodeEscape (pos + 7))
      | .ok none => text start (pos + 6) (e :: cs) (unitChar u :: acc)
      | .ok (some v) => text start (pos + 12) (cs.drop 5) (pairChar u v :: acc)
  | pos, '\\' :: c :: cs, acc =>
    if c == 'u' then .error (.malformed .badUnicodeEscape (pos + 1))
    else
      match shortEscape? c with
      | some ch => text start (pos + 2) cs (ch :: acc)
      | none => .error (.malformed .badEscape pos)
  | pos, c :: cs, acc =>
    if c.toNat < 0x20 then .error (.malformed .controlCharacter pos)
    else text start (pos + 1) cs (c :: acc)
termination_by _ cs => cs.length

/-- The natural number of a list of decimal digits. -/
def digitsValue (cs : List Char) : Nat := cs.foldl (fun n c => n * 10 + (c.toNat - 48)) 0

/-- The digits at the start of a list, and the rest. -/
def spanDigits (cs : List Char) : List Char × List Char :=
  (cs.takeWhile Char.isDigit, cs.dropWhile Char.isDigit)

/-- The fraction at the start of a list: a point and at least one digit. -/
def fraction? : List Char → Option (List Char × List Char)
  | '.' :: cs =>
    let (ds, rest) := spanDigits cs
    if ds.isEmpty then none else some (ds, rest)
  | _ => none

/-- The exponent at the start of a list, with the number of characters it takes. -/
def exponent? : List Char → Option (Int × Nat × List Char)
  | c :: cs =>
    if c == 'e' || c == 'E' then
      let (negative, signs, cs) := match cs with
        | '-' :: cs => (true, 1, cs)
        | '+' :: cs => (false, 1, cs)
        | cs => (false, 0, cs)
      let (ds, rest) := spanDigits cs
      if ds.isEmpty then none
      else
        let n : Int := digitsValue ds
        some (if negative then -n else n, 1 + signs + ds.length, rest)
    else none
  | [] => none

/-- Reads a number after its sign. -/
def number (start : Nat) (negative : Bool) (pos : Nat) (cs : List Char) :
    Except Fault (Step Value) :=
  let (whole, rest) := match cs with
    | '0' :: rest => (['0'], rest)
    | cs => spanDigits cs
  if whole.isEmpty then .error (.malformed .expectedValue start)
  else
    let pos := pos + whole.length
    let (places, pos, rest) := match fraction? rest with
      | some (ds, rest) => (ds, pos + 1 + ds.length, rest)
      | none => ([], pos, rest)
    match exponent? rest with
    | some (e, n, rest) =>
      .ok (.float (.ofDecimal negative (digitsValue (whole ++ places)) (e - places.length)),
        pos + n, rest)
    | none =>
      if places.isEmpty then
        if whole.length > Value.digitLimit then .error .tooManyDigits
        else
          let n : Int := digitsValue whole
          .ok (.int (if negative then -n else n), pos, rest)
      else
        .ok (.float (.ofDecimal negative (digitsValue (whole ++ places)) (-places.length)),
          pos, rest)

mutual

/-- Reads a value. The first argument bounds the depth of the recursion. -/
def value : Nat → Nat → List Char → Except Fault (Step Value)
  | 0, pos, _ => .error (.malformed .expectedValue pos)
  | fuel + 1, pos, cs =>
    match cs with
    | '"' :: rest => (text pos (pos + 1) rest []).map fun (s, after) => (.text s, after)
    | '\x7b' :: rest =>
      let (pos, rest) := skipSpace (pos + 1) rest
      match rest with
      | '\x7d' :: rest => .ok (.dict [], pos + 1, rest)
      | _ => members fuel pos rest []
    | '[' :: rest =>
      let (pos, rest) := skipSpace (pos + 1) rest
      match rest with
      | ']' :: rest => .ok (.list [], pos + 1, rest)
      | _ => items fuel pos rest []
    | 'n' :: 'u' :: 'l' :: 'l' :: rest => .ok (.null, pos + 4, rest)
    | 't' :: 'r' :: 'u' :: 'e' :: rest => .ok (.bool true, pos + 4, rest)
    | 'f' :: 'a' :: 'l' :: 's' :: 'e' :: rest => .ok (.bool false, pos + 5, rest)
    | 'N' :: 'a' :: 'N' :: rest => .ok (.float .nan, pos + 3, rest)
    | 'I' :: 'n' :: 'f' :: 'i' :: 'n' :: 'i' :: 't' :: 'y' :: rest =>
      .ok (.float (.infinite false), pos + 8, rest)
    | '-' :: 'I' :: 'n' :: 'f' :: 'i' :: 'n' :: 'i' :: 't' :: 'y' :: rest =>
      .ok (.float (.infinite true), pos + 9, rest)
    | '-' :: rest => number pos true (pos + 1) rest
    | cs => number pos false pos cs

/-- Reads the rest of a list from an item on. -/
def items : Nat → Nat → List Char → List Value → Except Fault (Step Value)
  | 0, pos, _, _ => .error (.malformed .expectedValue pos)
  | fuel + 1, pos, cs, acc => do
    let (v, pos, cs) ← value fuel pos cs
    let (pos, cs) := skipSpace pos cs
    match cs with
    | ']' :: rest => .ok (.list (v :: acc).reverse, pos + 1, rest)
    | ',' :: rest =>
      let (pos, rest) := skipSpace (pos + 1) rest
      items fuel pos rest (v :: acc)
    | _ => .error (.malformed .expectedComma pos)

/-- Reads the rest of an object from a name on. -/
def members : Nat → Nat → List Char → Dict → Except Fault (Step Value)
  | 0, pos, _, _ => .error (.malformed .expectedName pos)
  | fuel + 1, pos, cs, acc => do
    match cs with
    | '"' :: rest =>
      let (name, pos, cs) ← text pos (pos + 1) rest []
      let (pos, cs) := skipSpace pos cs
      match cs with
      | ':' :: rest =>
        let (pos, cs) := skipSpace (pos + 1) rest
        let (v, pos, cs) ← value fuel pos cs
        let (pos, cs) := skipSpace pos cs
        let acc := (.text name, v) :: acc
        match cs with
        | '\x7d' :: rest => .ok (.dict (Assoc.ofList acc.reverse), pos + 1, rest)
        | ',' :: rest =>
          let (pos, rest) := skipSpace (pos + 1) rest
          members fuel pos rest acc
        | _ => .error (.malformed .expectedComma pos)
      | _ => .error (.malformed .expectedColon pos)
    | _ => .error (.malformed .expectedName pos)

end

/-- Reads a whole text, white space around the value included. -/
def readChars (cs : List Char) : Except Fault Value := do
  let (pos, rest) := skipSpace 0 cs
  let (v, pos, rest) ← value (2 * cs.length + 2) pos rest
  match skipSpace pos rest with
  | (_, []) => .ok v
  | (pos, _) => .error (.malformed .extraData pos)

/-- Reads a JSON text. -/
def read (s : String) : Except Fault Value :=
  match s.toList with
  | c :: cs =>
    if c.toNat == 0xfeff then .error (.malformed .byteOrderMark 0) else readChars (c :: cs)
  | [] => readChars []

/-- Reads a JSON text that comes from a place. -/
def readAt [Platform] (place : Place) (s : String) : Except Fault Value :=
  if Platform.exhausts (.readJson place s) then .error .tooDeep else read s

theorem readAt_of_shallow [Platform] {place : Place} {s : String}
    (shallow : Platform.exhausts (.readJson place s) = false) : readAt place s = read s := by
  rw [readAt, shallow, if_neg Bool.false_ne_true]

/-- Where the stack suffices, a text is read as anywhere else. -/
theorem readAt_cases [Platform] (place : Place) (s : String) :
    readAt place s = .error .tooDeep ∨ readAt place s = read s := by
  rw [readAt]
  split
  · exact .inl rfl
  · exact .inr rfl

end RouteSchema.Json
