import RouteSchema.Number.Literal
import RouteSchema.Platform
import RouteSchema.Text.Base64
import RouteSchema.Text.Blank
import RouteSchema.Yaml.Node

/-!
# Content of YAML documents

The last stage of reading YAML 1.1: nodes as values. Mappings are freed of merge keys first; then
each node becomes the value its tag asks for. Of two keys of one mapping that are equal the last
one counts, at the place of the first. Where several nodes are at fault, the one nearest to the
root is reported.

* `Yaml.read` reads a whole text.
-/

namespace RouteSchema.Yaml

/-- A fault and the depth at which it lies. -/
abbrev DeepFault := Nat × Fault

/-- Two results, or the fault that lies less deep; the first of two at one depth. -/
def both {α β γ : Type} (f : α → β → γ) (a : Except DeepFault α) (b : Except DeepFault β) :
    Except DeepFault γ :=
  match a, b with
  | .ok x, .ok y => .ok (f x y)
  | .error e, .error e' => .error (if e'.1 < e.1 then e' else e)
  | .error e, _ => .error e
  | _, .error e => .error e

/-! ## Merge keys -/

/-- The node of a default-value key as the text it shows; other nodes as they are. -/
def asKey : Node → Node
  | .scalar tag text => .scalar (if tag == Tag.value then Tag.str else tag) text
  | .sequence tag items => .sequence (if tag == Tag.value then Tag.str else tag) items
  | .mapping tag entries => .mapping (if tag == Tag.value then Tag.str else tag) entries

mutual

/-- The entries that the value of a merge key stands for. Of a sequence of mappings the first one
counts most, so it comes last. -/
def merged : Node → Except Fault (List (Node × Node))
  | .mapping _ entries => flatEntries entries
  | .sequence _ items => (mergedItems items).map fun lists => lists.reverse.flatten
  | .scalar _ _ => .error .malformed

/-- The entries of each mapping of a sequence. -/
def mergedItems : List Node → Except Fault (List (List (Node × Node)))
  | [] => .ok []
  | .mapping _ entries :: rest => do
    let es ← flatEntries entries
    let rest ← mergedItems rest
    return es :: rest
  | _ :: _ => .error .malformed

/-- The entries of a mapping: those merged into it, then its own. -/
def flatEntries (entries : List (Node × Node)) : Except Fault (List (Node × Node)) :=
  (splitEntries entries).map fun (incoming, own) => incoming ++ own

/-- The entries merged into a mapping and its own ones. -/
def splitEntries : List (Node × Node) → Except Fault (List (Node × Node) × List (Node × Node))
  | [] => .ok ([], [])
  | (k, v) :: rest =>
    if k.tag == Tag.merge then do
      let es ← merged v
      let (incoming, own) ← splitEntries rest
      return (es ++ incoming, own)
    else do
      let (incoming, own) ← splitEntries rest
      return (incoming, (asKey k, v) :: own)

end

/-! ## Scalars -/

/-- The text of a scalar, or of the default value of a mapping. -/
def scalarText : Nat → Node → Except Fault String
  | _, .scalar _ text => .ok text
  | fuel + 1, .mapping _ entries =>
    match entries.find? fun (k, _) => k.tag == Tag.value with
    | some (_, v) => scalarText fuel v
    | none => .error .malformed
  | _, _ => .error .malformed

/-- The truth value of a text. -/
def readBool (text : String) : Except Fault Value :=
  let s := String.ofList (text.toList.map Char.toLower)
  if ["yes", "true", "on"].contains s then .ok (.bool true)
  else if ["no", "false", "off"].contains s then .ok (.bool false)
  else .error (.notBoolean s)

/-- A sign at the start of a number and what follows it. -/
def splitSign : List Char → Except Fault (Bool × List Char)
  | [] => .error .emptyNumber
  | '-' :: cs => .ok (true, cs)
  | '+' :: cs => .ok (false, cs)
  | cs => .ok (false, cs)

/-- The integer of a text in a base; blanks around it and a sign of its own are allowed. -/
def readDigits (base : Nat) (cs : List Char) : Except Fault Int :=
  match Literal.int? base cs with
  | some n => .ok n
  | none => .error .badValue

/-- The parts of a text between colons. -/
def colonParts (cs : List Char) : List (List Char) := cs.splitOn ':'

/-- The integer of a text: in base two, eight, ten or sixteen, or in places of sixty. -/
def readInt (text : String) : Except Fault Value := do
  let (negative, cs) ← splitSign (text.toList.filter (· != '_'))
  let n ←
    match cs with
    | [] => throw Fault.emptyNumber
    | ['0'] => pure 0
    | '0' :: 'b' :: ds => readDigits 2 ds
    | '0' :: 'x' :: ds => readDigits 16 ds
    | '0' :: ds => readDigits 8 ('0' :: ds)
    | cs =>
      if cs.contains ':' then do
        let places ← (colonParts cs).mapM (readDigits 10)
        pure (places.foldl (fun n d => n * 60 + d) 0)
      else readDigits 10 cs
  return .int (if negative then -n else n)

/-- The floating-point number of a text, which may be written in places of sixty. -/
def readFloat (text : String) : Except Fault Value := do
  let (negative, cs) ←
    splitSign ((text.toList.filter (· != '_')).map Char.toLower)
  let number (cs : List Char) : Except Fault Binary64 :=
    match Literal.float? cs with
    | some x => .ok x
    | none => .error .badValue
  let x ←
    if cs == ".inf".toList then pure (Binary64.infinite false)
    else if cs == ".nan".toList then return .float .nan
    else if cs.contains ':' then do
      let places ← (colonParts cs).mapM number
      if (Binary64.ofInt (Nat.pow 60 (places.length - 1))).isInfinite then throw .tooLarge
      pure (places.reverse.foldl
        (fun (sum, base) d => (sum.add (d.mul (.ofInt base)), base * 60))
        (Binary64.zero false, (1 : Int))).1
    else number cs
  return .float (if negative then x.neg else x)

/-- The parts of a date and a time. -/
def timePattern : Regex.Program := Tag.pattern (
  "^([0-9][0-9][0-9][0-9])-([0-9][0-9]?)-([0-9][0-9]?)" ++
  "(?:(?:[Tt]|[ \\t]+)([0-9][0-9]?):([0-9][0-9]):([0-9][0-9])(?:\\.([0-9]*))?" ++
  "(?:[ \\t]*(Z|([-+])([0-9][0-9]?)(?::([0-9][0-9]))?))?)?$")

/-- The date or the moment of a text. -/
def readTime (text : String) : Except Fault Value :=
  match timePattern.matchAt false (.start text.toList) with
  | none => .error .notTime
  | some m =>
    let part (n : Nat) : Option (List Char) := m.captures.get? n
    let number (n : Nat) : Nat :=
      ((part n).getD []).foldl (fun n c => n * 10 + (c.toNat - 48)) 0
    match Calendar.Date.of? (number 1) (number 2) (number 3) with
    | none => .error .badValue
    | some date =>
      if (part 4).isNone then .ok (.date date)
      else
        let fraction := ((part 7).getD []).take 6
        let micro := (fraction ++ List.replicate (6 - fraction.length) '0').foldl
          (fun n c => n * 10 + (c.toNat - 48)) 0
        let offset : Option Int :=
          match part 9 with
          | some sign =>
            let seconds : Int := number 10 * 3600 + number 11 * 60
            some (if sign == ['-'] then -seconds else seconds)
          | none => (part 8).map fun _ => 0
        match Calendar.Moment.of? date (number 4) (number 5) (number 6) micro offset with
        | some moment => .ok (.moment moment)
        | none => .error .badValue

/-- The bytes of a text in base 64. -/
def readBinary (text : String) : Except Fault Value :=
  if text.toList.all (·.toNat < 0x80) then
    match Base64.decode? text.toList with
    | some bytes => .ok (.bytes bytes)
    | none => .error .malformed
  else .error .malformed

/-- The value of a scalar under a tag, if the tag asks for a scalar. -/
def readScalar? (tag text : String) : Option (Except Fault Value) :=
  if tag == Tag.str then some (.ok (.text text))
  else if tag == Tag.null then some (.ok .null)
  else if tag == Tag.bool then some (readBool text)
  else if tag == Tag.int then some (readInt text)
  else if tag == Tag.float then some (readFloat text)
  else if tag == Tag.timestamp then some (readTime text)
  else if tag == Tag.binary then some (readBinary text)
  else none

/-! ## Collections -/

/-- The items of a list read one by one. -/
def eachItem {α β : Type} (f : α → Except DeepFault β) : List α → Except DeepFault (List β)
  | [] => .ok []
  | x :: xs => both (· :: ·) (f x) (eachItem f xs)

/-- Whether a tag asks for a collection. Its content is read after the collection itself, so what is
wrong with it lies one level deeper. -/
def isCollection (tag : String) : Bool :=
  [Tag.seq, Tag.map, Tag.set, Tag.omap, Tag.pairs].contains tag

/-- The value of a node at a depth. The first argument bounds the depth of the recursion. -/
def content [Platform] : Nat → Nat → Node → Except DeepFault Value
  | 0, depth, _ => .error (depth, .malformed)
  | fuel + 1, depth, node =>
    let misshapen : Except DeepFault Value := .error (depth + 1, .malformed)
    let items (ns : List Node) : Except DeepFault (List Value) :=
      eachItem (content fuel (depth + 1)) ns
    let key (k : Node) : Except DeepFault Value :=
      if isCollection k.tag then .error (depth + 1, .malformed) else content fuel (depth + 1) k
    let entry (e : Node × Node) : Except DeepFault (Value × Value) :=
      both (·, ·) (key e.1) (content fuel (depth + 1) e.2)
    let entries (es : List (Node × Node)) : Except DeepFault Dict :=
      match flatEntries es with
      | .ok es => (eachItem entry es).map Assoc.ofList
      | .error e => .error (depth + 1, e)
    let pair : Node → Except DeepFault Value
      | .mapping _ [(k, v)] =>
        both (fun a b => .tuple [a, b]) (content fuel (depth + 1) k) (content fuel (depth + 1) v)
      | _ => .error (depth + 1, .malformed)
    let tag := node.tag
    if tag == Tag.seq then
      match node with
      | .sequence _ ns => (items ns).map .list
      | _ => misshapen
    else if tag == Tag.map then
      match node with
      | .mapping _ es => (entries es).map .dict
      | _ => misshapen
    else if tag == Tag.set then
      match node with
      | .mapping _ es => (entries es).map fun es => .set (Platform.enumerated (Assoc.keys es))
      | _ => misshapen
    else if tag == Tag.omap || tag == Tag.pairs then
      match node with
      | .sequence _ ns => (eachItem pair ns).map .list
      | _ => misshapen
    else
      match scalarText fuel node with
      | .error e => .error (depth, e)
      | .ok text =>
        match readScalar? tag text with
        | some (.ok v) => .ok v
        | some (.error e) => .error (depth, e)
        | none => .error (depth, .malformed)

/-- Reads a YAML text; a text without a document is null. -/
def read [Platform] (text : String) : Except Fault Value := do
  let ts ← Token.scan text
  match ← Node.ofTokens ts with
  | none => return .null
  | some node =>
    match content (ts.length + 2) 0 node with
    | .ok v => return v
    | .error (_, e) => throw e

end RouteSchema.Yaml
