import RouteSchema.Value.Text

/-!
# Writing JSON

Values as JSON texts. A value that JSON does not know is written as the text of its display where
the layout allows it (`lenient`), and is a fault otherwise. Names of members are texts; null, truth
values and numbers become such texts, and any other key is a fault under every layout. So is an
integer without a text, wherever it stands.

* `Json.write` writes a value under a layout.
* `Layout.indented` is the layout of data, `Layout.strict` that of the bodies of requests, and
  `Layout.spaced` that of a body on one line.
-/

namespace RouteSchema.Json

/-- How JSON is laid out. -/
structure Layout where
  /-- The number of spaces by which a container is indented, each item on a line of its own; all on
  one line if there is none. -/
  indent : Option Nat
  /-- What stands between the items of a container on one line. -/
  separator : String
  /-- What stands between a name and its value. -/
  colon : String
  /-- Whether characters outside ASCII are escaped. -/
  ascii : Bool
  /-- Whether unknown values are written as texts. -/
  lenient : Bool

/-- Two spaces of indentation, unknown values as texts. -/
def Layout.indented : Layout := ⟨some 2, ",", ": ", false, true⟩

/-- Two spaces of indentation, ASCII only, unknown values refused. -/
def Layout.strict : Layout := ⟨some 2, ",", ": ", true, false⟩

/-- One line with a space after each comma and colon. -/
def Layout.spaced : Layout := ⟨none, ", ", ": ", false, false⟩

/-- Why a value is not written. -/
inductive WriteFault
  | badKey (typeName : String)
  | badValue (typeName : String)
  | tooManyDigits
  deriving DecidableEq, Repr

/-- The wording of a fault. -/
def WriteFault.message : WriteFault → String
  | .badKey name => "keys must be str, int, float, bool or None, not " ++ name
  | .badValue name => "Object of type " ++ name ++ " is not JSON serializable"
  | .tooManyDigits => Value.tooManyDigits

/-- An escape of a code unit. -/
def unitEscape (n : Nat) : String := "\\u" ++ Text.hexDigits 4 n

/-- A character inside quotes. -/
def writtenChar (ascii : Bool) (c : Char) : String :=
  if c == '"' then "\\\"" else if c == '\\' then "\\\\"
  else if c == '\n' then "\\n" else if c == '\r' then "\\r" else if c == '\t' then "\\t"
  else if c == '\x08' then "\\b" else if c == '\x0c' then "\\f"
  else
    let n := c.toNat
    if n < 0x20 then unitEscape n
    else if ascii && n ≥ 0x7f then
      if n < 0x10000 then unitEscape n
      else
        unitEscape (0xd800 + (n - 0x10000) / 1024) ++ unitEscape (0xdc00 + (n - 0x10000) % 1024)
    else String.singleton c

/-- A text between quotes. -/
def writtenText (ascii : Bool) (s : String) : String :=
  "\"" ++ String.join (s.toList.map (writtenChar ascii)) ++ "\""

/-- The text of a number of JSON. -/
def floatText (x : Binary64) : String := Shortest.Layout.json.text x

/-- The text of an integer. -/
def writtenInt (i : Int) : Except WriteFault String :=
  if Value.isShort i then .ok (toString i) else .error .tooManyDigits

theorem writtenInt_eq {i : Int} (few : Value.isShort i = true) : writtenInt i = .ok (toString i) :=
  if_pos few

/-- The text between quotes for a value that JSON does not know. -/
def Layout.unknown (l : Layout) (v : Value) : Except WriteFault String :=
  if !l.lenient then .error (.badValue v.typeName)
  else if v.printable then .ok (writtenText l.ascii v.display)
  else .error .tooManyDigits

/-- The name of a member with a key. -/
def memberName : Value → Except WriteFault String
  | .text s => .ok s
  | .null => .ok "null"
  | .bool b => .ok (if b then "true" else "false")
  | .int i => writtenInt i
  | .float x => .ok (floatText x)
  | v => .error (.badKey v.typeName)

/-- A new line and the indentation of a depth; nothing on one line. -/
def Layout.lineBreak (l : Layout) (depth : Nat) : String :=
  match l.indent with
  | some n => String.ofList ('\n' :: List.replicate (n * depth) ' ')
  | none => ""

/-- A container between its brackets, at a depth. -/
def Layout.container (l : Layout) (start stop : String) (depth : Nat) (items : List String) :
    String :=
  if items.isEmpty then start ++ stop
  else
    start ++ l.lineBreak (depth + 1) ++
      Value.joined (l.separator ++ l.lineBreak (depth + 1)) items ++ l.lineBreak depth ++ stop

mutual

/-- A value at a depth. -/
def writeAt (l : Layout) (depth : Nat) : Value → Except WriteFault String
  | .null => .ok "null"
  | .bool b => .ok (if b then "true" else "false")
  | .int i => writtenInt i
  | .float x => .ok (floatText x)
  | .text s => .ok (writtenText l.ascii s)
  | .list xs => (writeItems l (depth + 1) xs).map (l.container "[" "]" depth)
  | .tuple xs => (writeItems l (depth + 1) xs).map (l.container "[" "]" depth)
  | .dict es => (writeMembers l (depth + 1) es).map (l.container "\x7b" "\x7d" depth)
  | v => l.unknown v

/-- Values at a depth. -/
def writeItems (l : Layout) (depth : Nat) : List Value → Except WriteFault (List String)
  | [] => .ok []
  | x :: xs => do
    let s ← writeAt l depth x
    let rest ← writeItems l depth xs
    return s :: rest

/-- Members at a depth. -/
def writeMembers (l : Layout) (depth : Nat) :
    List (Value × Value) → Except WriteFault (List String)
  | [] => .ok []
  | (k, v) :: es => do
    let name ← memberName k
    let s ← writeAt l depth v
    let rest ← writeMembers l depth es
    return (writtenText l.ascii name ++ l.colon ++ s) :: rest

end

/-- The JSON text of a value. -/
def write (l : Layout) (v : Value) : Except WriteFault String := writeAt l 0 v

end RouteSchema.Json
