import RouteSchema.Assoc
import RouteSchema.Number.Literal
import RouteSchema.Text.Utf8

/-!
# Tokens of YAML

The first stage of reading YAML 1.1: the characters of a text as tokens. Indentation becomes
explicit starts and ends of block collections, and a key that is recognised only by the colon
behind it gets its `key` token in front of it.

* `Token.scan` gives the tokens of a text.
* `Fault` lists the reasons for which any stage refuses a text.
-/

namespace RouteSchema.Yaml

/-- Why a text is refused. -/
inductive Fault
  /-- It is no YAML text, or it holds something that documents may not hold. -/
  | malformed
  /-- A truth value is expected, and the text, in small letters, is none. -/
  | notBoolean (text : String)
  /-- A time is expected, and the text is none. -/
  | notTime
  /-- A number is expected, and there is no text. -/
  | emptyNumber
  /-- A number, a date or a character code is out of bounds. -/
  | badValue
  /-- A number or a character code is too large for the machine. -/
  | tooLarge
  /-- A node stands inside itself. -/
  | cyclic
  deriving DecidableEq, Repr

/-- A token. -/
inductive Token
  | versionDirective (major minor : Nat)
  | tagDirective (handle start : String)
  | otherDirective
  | documentStart
  | documentEnd
  | streamEnd
  | blockSequenceStart
  | blockMappingStart
  | blockEnd
  | flowSequenceStart
  | flowSequenceEnd
  | flowMappingStart
  | flowMappingEnd
  | key
  | value
  | blockEntry
  | flowEntry
  | alias (name : String)
  | anchor (name : String)
  | tag (handle : Option String) (suffix : String)
  | scalar (text : String) (plain : Bool)
  deriving DecidableEq, Repr

/-- A line break. -/
def isBreak (c : Char) : Bool :=
  c == '\n' || c == '\r' || c.toNat == 0x85 || c.toNat == 0x2028 || c.toNat == 0x2029

/-- A space, a tab or a line break. -/
def isSpace (c : Char) : Bool := c == ' ' || c == '\t' || isBreak c

/-- The end of the text or a line break. -/
def endsLine (c : Option Char) : Bool := c.all isBreak

/-- The end of the text, a space or a line break. -/
def endsWord (c : Option Char) : Bool := c.all fun c => c == ' ' || isBreak c

/-- The end of the text, a space, a tab or a line break. -/
def endsToken (c : Option Char) : Bool := c.all isSpace

/-- A letter, a digit, a hyphen or an underscore. -/
def isNameChar (c : Char) : Bool := c.isAlphanum || c == '-' || c == '_'

/-- A character that a text may hold. -/
def isAllowed (c : Char) : Bool :=
  let n := c.toNat
  n == 0x9 || n == 0xa || n == 0xd || (0x20 ≤ n && n ≤ 0x7e) || n == 0x85 ||
    (0xa0 ≤ n && n ≤ 0xd7ff) || (0xe000 ≤ n && n ≤ 0xfffd) || 0x10000 ≤ n

/-- A place where a key may have begun: the number of the token and the position. A required key
must turn out to be one. -/
structure PossibleKey where
  token : Nat
  required : Bool
  index : Nat
  line : Nat
  column : Nat

/-- The state of the scanner. -/
structure Scanner where
  rest : List Char
  index : Nat
  line : Nat
  column : Nat
  /-- The depth of flow collections. -/
  flow : Nat
  tokens : Array Token
  indent : Int
  indents : List Int
  /-- Whether a key may begin here. -/
  allowKey : Bool
  /-- The possible keys by depth of flow collections. -/
  keys : Assoc Nat PossibleKey

namespace Scanner

/-- The character at a distance. -/
def peek (s : Scanner) (k : Nat) : Option Char := s.rest[k]?

/-- Moves on by a character. -/
def forward (s : Scanner) : Scanner :=
  match s.rest with
  | [] => s
  | c :: cs =>
    if c == '\n' || c.toNat == 0x85 || c.toNat == 0x2028 || c.toNat == 0x2029 ||
        (c == '\r' && cs.head? != some '\n') then
      { s with rest := cs, index := s.index + 1, line := s.line + 1, column := 0 }
    else
      { s with
        rest := cs, index := s.index + 1
        column := if c.toNat == 0xfeff then s.column else s.column + 1 }

/-- Moves on by a number of characters. -/
def skip : Nat → Scanner → Scanner
  | 0, s => s
  | n + 1, s => skip n s.forward

/-- The characters that satisfy `p` from here on, and the state behind them. -/
def span (p : Char → Bool) (s : Scanner) : List Char × Scanner :=
  let cs := s.rest.takeWhile p
  (cs, s.skip cs.length)

/-- Moves on while the characters satisfy `p`. -/
def skipWhile (p : Char → Bool) (s : Scanner) : Scanner := (s.span p).2

/-- A line break in its normal form and the state behind it; no text if there is none. -/
def lineBreak (s : Scanner) : List Char × Scanner :=
  match s.rest with
  | '\r' :: '\n' :: _ => (['\n'], s.skip 2)
  | c :: _ =>
    if c == '\r' || c == '\n' || c.toNat == 0x85 then (['\n'], s.forward)
    else if isBreak c then ([c], s.forward)
    else ([], s)
  | [] => ([], s)

/-- Whether three equal characters, hyphens or points, stand here by themselves. -/
def atSeparator (s : Scanner) : Bool :=
  match s.rest with
  | '-' :: '-' :: '-' :: cs | '.' :: '.' :: '.' :: cs => endsToken cs.head?
  | _ => false

/-- Adds a token. -/
def emit (s : Scanner) (t : Token) : Scanner := { s with tokens := s.tokens.push t }

/-- Inserts a token in front of the one with a number. -/
def emitAt (s : Scanner) (i : Nat) (t : Token) : Scanner :=
  { s with tokens := (s.tokens.extract 0 i).push t ++ s.tokens.extract i s.tokens.size }

/-- Skips spaces, comments and line breaks. -/
def skipBlank : Nat → Scanner → Scanner
  | 0, s => s
  | fuel + 1, s =>
    let s := s.skipWhile (· == ' ')
    let s := if s.peek 0 == some '#' then s.skipWhile (!isBreak ·) else s
    let (b, s) := s.lineBreak
    if b.isEmpty then s
    else skipBlank fuel (if s.flow == 0 then { s with allowKey := true } else s)

/-! ## Keys and indentation -/

/-- The distance over which a key may extend before its colon. -/
def keyReach : Nat := 1024

/-- Forgets the possible keys that lie on another line or too far back. -/
def dropStaleKeys (s : Scanner) : Except Fault Scanner :=
  let isStale (k : PossibleKey) : Bool := k.line != s.line || s.index - k.index > keyReach
  if s.keys.any fun (_, k) => isStale k && k.required then .error .malformed
  else .ok { s with keys := s.keys.filter fun (_, k) => !isStale k }

/-- Forgets the possible key at the present depth. -/
def dropKey (s : Scanner) : Except Fault Scanner :=
  match Assoc.get? s.keys s.flow with
  | some k =>
    if k.required then .error .malformed else .ok { s with keys := Assoc.erase s.keys s.flow }
  | none => .ok s

/-- Notes that a key may begin here. -/
def noteKey (s : Scanner) : Except Fault Scanner :=
  if s.allowKey then do
    let required := s.flow == 0 && s.indent == (s.column : Int)
    let s ← s.dropKey
    let k : PossibleKey := ⟨s.tokens.size, required, s.index, s.line, s.column⟩
    return { s with keys := Assoc.insert s.keys s.flow k }
  else .ok s

/-- Closes the block collections that are indented by more than a column. -/
def unwind (column : Int) : List Int → Scanner → Scanner
  | [], s => s
  | outer :: outers, s =>
    if s.flow == 0 && s.indent > column then
      unwind column outers { s.emit .blockEnd with indent := outer, indents := outers }
    else s

/-- Closes the block collections that are indented by more than a column. -/
def unwindTo (s : Scanner) (column : Int) : Scanner := unwind column s.indents s

/-- Opens a block collection at a column if the column is deeper than the present one. -/
def openBlock (s : Scanner) (column : Nat) : Bool × Scanner :=
  if s.indent < column then
    (true, { s with indents := s.indent :: s.indents, indent := column })
  else (false, s)

/-! ## Directives, anchors and tags -/

/-- The decimal number at this place. -/
def number (s : Scanner) : Except Fault (Nat × Scanner) :=
  let (ds, s) := s.span Char.isDigit
  if ds.isEmpty then .error .malformed
  else .ok (ds.foldl (fun n c => n * 10 + (c.toNat - 48)) 0, s)

/-- The rest of a line that may hold a comment only. -/
def ignoredLine (s : Scanner) : Except Fault Scanner :=
  let s := s.skipWhile (· == ' ')
  let s := if s.peek 0 == some '#' then s.skipWhile (!isBreak ·) else s
  if endsLine (s.peek 0) then .ok s.lineBreak.2 else .error .malformed

/-- The value of exactly `n` hexadecimal digits from here on. -/
def hexCode (s : Scanner) (n : Nat) : Except Fault (Nat × Scanner) :=
  match (s.rest.take n).mapM (Literal.digit? 16) with
  | some ds =>
    if ds.length == n then .ok (ds.foldl (· * 16 + ·) 0, s.skip n) else .error .malformed
  | none => .error .malformed

/-- A handle of tags: an exclamation mark, or a name between two. -/
def tagHandle (s : Scanner) : Except Fault (String × Scanner) :=
  if s.peek 0 != some '!' then .error .malformed
  else if s.peek 1 == some ' ' then .ok ("!", s.forward)
  else
    let (name, s) := s.forward.span isNameChar
    if s.peek 0 == some '!' then .ok (String.ofList ('!' :: name ++ ['!']), s.forward)
    else .error .malformed

/-- A character of a tag's address. -/
def isUriChar (c : Char) : Bool :=
  isNameChar c || ";/?:@&=+$,.!~*\x27()[]".toList.contains c

/-- The bytes of a run of escapes. -/
def uriEscapes : Nat → Scanner → Except Fault (List UInt8 × Scanner)
  | 0, s => .ok ([], s)
  | fuel + 1, s =>
    if s.peek 0 == some '%' then do
      let (n, s) ← s.forward.hexCode 2
      let (rest, s) ← uriEscapes fuel s
      return (UInt8.ofNat n :: rest, s)
    else .ok ([], s)

/-- The characters of a tag's address. -/
def uriChars : Nat → Scanner → Except Fault (List Char × Scanner)
  | 0, s => .ok ([], s)
  | fuel + 1, s =>
    if s.peek 0 == some '%' then do
      let (bytes, s) ← uriEscapes s.rest.length s
      match Utf8.decode bytes with
      | .error _ => .error .malformed
      | .ok text =>
        let (rest, s) ← uriChars fuel s
        return (text.toList ++ rest, s)
    else
      let (cs, s) := s.span isUriChar
      if cs.isEmpty then .ok ([], s)
      else do
        let (rest, s) ← uriChars fuel s
        return (cs ++ rest, s)

/-- A tag's address, of at least one character or escape. -/
def tagUri (s : Scanner) : Except Fault (String × Scanner) :=
  if s.peek 0 == some '%' || (s.peek 0).any isUriChar then do
    let (cs, s) ← uriChars (s.rest.length + 1) s
    return (String.ofList cs, s)
  else .error .malformed

/-- A directive behind its percent sign. -/
def directive (s : Scanner) : Except Fault (Token × Scanner) := do
  let (name, s) := s.forward.span isNameChar
  if name.isEmpty || !endsWord (s.peek 0) then throw .malformed
  if name == "YAML".toList then
    let (major, s) ← (s.skipWhile (· == ' ')).number
    if s.peek 0 != some '.' then throw .malformed
    let (minor, s) ← s.forward.number
    if !endsWord (s.peek 0) then throw .malformed
    return (.versionDirective major minor, ← s.ignoredLine)
  else if name == "TAG".toList then
    let (handle, s) ← (s.skipWhile (· == ' ')).tagHandle
    if s.peek 0 != some ' ' then throw .malformed
    let (start, s) ← (s.skipWhile (· == ' ')).tagUri
    if !endsWord (s.peek 0) then throw .malformed
    return (.tagDirective handle start, ← s.ignoredLine)
  else return (.otherDirective, ← (s.skipWhile (!isBreak ·)).ignoredLine)

/-- The name of an anchor or an alias behind its sign. -/
def anchorName (s : Scanner) : Except Fault (String × Scanner) :=
  let (name, s) := s.forward.span isNameChar
  let ends (c : Option Char) : Bool :=
    endsToken c || c.any fun c => "?:,]\x7d%@\x60".toList.contains c
  if name.isEmpty || !ends (s.peek 0) then .error .malformed else .ok (String.ofList name, s)

/-- Whether an exclamation mark stands in the word behind the present one. -/
def hasHandle (s : Scanner) : Bool :=
  ((s.rest.drop 1).takeWhile fun c => !(c == ' ' || isBreak c)).contains '!'

/-- A tag. -/
def tagToken (s : Scanner) : Except Fault (Token × Scanner) := do
  let (t, s) ←
    if s.peek 1 == some '<' then do
      let (uri, s) ← (s.skip 2).tagUri
      if s.peek 0 != some '>' then throw Fault.malformed
      pure (Token.tag none uri, s.forward)
    else if endsToken (s.peek 1) then pure (Token.tag none "!", s.forward)
    else do
      let (handle, s) ← if s.hasHandle then s.tagHandle else .ok ("!", s.forward)
      let (uri, s) ← s.tagUri
      pure (Token.tag (some handle) uri, s)
  if endsWord (s.peek 0) then return (t, s) else throw .malformed

/-! ## Scalars -/

/-- The line breaks and the indentation up to a column in a block scalar. -/
def blockBreaks (indent : Nat) : Nat → Scanner → List Char × Scanner
  | 0, s => ([], s)
  | fuel + 1, s =>
    let s := s.skip ((s.rest.take (indent - s.column)).takeWhile (· == ' ')).length
    let (b, s) := s.lineBreak
    if b.isEmpty then ([], s)
    else
      let (bs, s) := blockBreaks indent fuel s
      (b ++ bs, s)

/-- The line breaks at the start of a block scalar and the deepest column among its spaces. -/
def blockIndentation : Nat → Scanner → Nat → List Char × Nat × Scanner
  | 0, s, deepest => ([], deepest, s)
  | fuel + 1, s, deepest =>
    if s.peek 0 == some ' ' then
      let s := s.forward
      blockIndentation fuel s (max deepest s.column)
    else
      let (b, s) := s.lineBreak
      if b.isEmpty then ([], deepest, s)
      else
        let (bs, deepest, s) := blockIndentation fuel s deepest
        (b ++ bs, deepest, s)

/-- How a block scalar treats the line breaks at its end. -/
inductive Chomping
  | strip
  | clip
  | keep
  deriving DecidableEq

/-- The sign of a chomping. -/
def chomping? : Option Char → Option Chomping
  | some '+' => some .keep
  | some '-' => some .strip
  | _ => none

/-- The indentation given in the head of a block scalar. -/
def increment? (c : Option Char) : Except Fault (Option Nat) :=
  match c with
  | some c =>
    if c.isDigit then
      if c == '0' then .error .malformed else .ok (some (c.toNat - 48))
    else .ok none
  | none => .ok none

/-- The signs in the head of a block scalar, in either order. -/
def blockHead (s : Scanner) : Except Fault (Chomping × Option Nat × Scanner) := do
  let (chomping, increment, s) ←
    match chomping? (s.peek 0) with
    | some chomping => do
      let s := s.forward
      match ← increment? (s.peek 0) with
      | some n => pure (chomping, some n, s.forward)
      | none => pure (chomping, none, s)
    | none => do
      match ← increment? (s.peek 0) with
      | some n =>
        let s := s.forward
        match chomping? (s.peek 0) with
        | some chomping => pure (chomping, some n, s.forward)
        | none => pure (Chomping.clip, some n, s)
      | none => pure (Chomping.clip, none, s)
  if endsWord (s.peek 0) then return (chomping, increment, s) else throw .malformed

/-- Whether a character is a space or a tab. -/
def isIndentChar (c : Option Char) : Bool := c == some ' ' || c == some '\t'

/-- The lines of a block scalar. The result ends with the last line break and the breaks after
it. -/
def blockLines (folded : Bool) (indent : Nat) : Nat → List Char → List Char → Scanner →
    List Char × List Char × List Char × Scanner
  | 0, acc, breaks, s => (acc, [], breaks, s)
  | fuel + 1, acc, breaks, s =>
    let acc := acc ++ breaks
    let spaced := isIndentChar (s.peek 0)
    let (line, s) := s.span (!isBreak ·)
    let (b, s) := s.lineBreak
    let (breaks, s) := blockBreaks indent (s.rest.length + 1) s
    let acc := acc ++ line
    if s.column == indent && !s.rest.isEmpty then
      let joint :=
        if folded && b == ['\n'] && !spaced && !isIndentChar (s.peek 0) then
          (if breaks.isEmpty then [' '] else [])
        else b
      blockLines folded indent fuel (acc ++ joint) breaks s
    else (acc, b, breaks, s)

/-- A block scalar. -/
def blockScalar (folded : Bool) (s : Scanner) : Except Fault (Token × Scanner) := do
  let (chomping, increment, s) ← s.forward.blockHead
  let s ← s.ignoredLine
  let least := (max (s.indent + 1) 1).toNat
  let (breaks, indent, s) :=
    match increment with
    | none =>
      let (breaks, deepest, s) := blockIndentation (s.rest.length + 1) s 0
      (breaks, max least deepest, s)
    | some n =>
      let indent := least + n - 1
      let (breaks, s) := blockBreaks indent (s.rest.length + 1) s
      (breaks, indent, s)
  let (text, b, breaks, s) :=
    if s.column == indent && !s.rest.isEmpty then
      blockLines folded indent (s.rest.length + 1) [] breaks s
    else ([], [], breaks, s)
  let tail := match chomping with
    | .strip => []
    | .clip => b
    | .keep => b ++ breaks
  return (.scalar (String.ofList (text ++ tail)) false, s)

/-- The line breaks inside a quoted scalar. -/
def quotedBreaks : Nat → Scanner → Except Fault (List Char × Scanner)
  | 0, s => .ok ([], s)
  | fuel + 1, s =>
    if s.atSeparator then .error .malformed
    else
      let s := s.skipWhile fun c => c == ' ' || c == '\t'
      let (b, s) := s.lineBreak
      if b.isEmpty then .ok ([], s)
      else do
        let (bs, s) ← quotedBreaks fuel s
        return (b ++ bs, s)

/-- The characters of the escapes of two characters. -/
def escape? : Char → Option Nat
  | '0' => some 0
  | 'a' => some 7
  | 'b' => some 8
  | 't' | '\t' => some 9
  | 'n' => some 10
  | 'v' => some 11
  | 'f' => some 12
  | 'r' => some 13
  | 'e' => some 27
  | ' ' => some 32
  | '"' => some 34
  | '\\' => some 92
  | '/' => some 47
  | 'N' => some 0x85
  | '_' => some 0xa0
  | 'L' => some 0x2028
  | 'P' => some 0x2029
  | _ => none

/-- The number of hexadecimal digits of an escape by code. -/
def codeDigits? : Char → Option Nat
  | 'x' => some 2
  | 'u' => some 4
  | 'U' => some 8
  | _ => none

/-- The text behind a backslash in double quotes. -/
def quotedEscape (s : Scanner) : Except Fault (List Char × Scanner) :=
  match s.peek 0 with
  | none => .error .malformed
  | some c =>
    match escape? c, codeDigits? c with
    | some n, _ => .ok ([Char.ofNat n], s.forward)
    | none, some digits => do
      let (code, s) ← s.forward.hexCode digits
      if code ≥ 0x80000000 then throw .tooLarge
      if code ≥ 0x110000 then throw .badValue
      return ([if code.isValidChar then Char.ofNat code else Char.ofNat 0xfffd], s)
    | none, none =>
      if isBreak c then quotedBreaks (s.rest.length + 1) s.lineBreak.2 else .error .malformed

/-- The part of a quoted scalar up to a space, a line break or the closing quote. -/
def quotedWord (double : Bool) : Nat → Scanner → Except Fault (List Char × Scanner)
  | 0, s => .ok ([], s)
  | fuel + 1, s => do
    let (cs, s) := s.span fun c => !(c == '\x27' || c == '"' || c == '\\' || isSpace c)
    let again (part : List Char) (s : Scanner) : Except Fault (List Char × Scanner) := do
      let (rest, s) ← quotedWord double fuel s
      return (cs ++ part ++ rest, s)
    match s.peek 0 with
    | some '\x27' =>
      if double then again ['\x27'] s.forward
      else if s.peek 1 == some '\x27' then again ['\x27'] (s.skip 2)
      else return (cs, s)
    | some '"' => if double then return (cs, s) else again ['"'] s.forward
    | some '\\' =>
      if double then
        let (part, s) ← s.forward.quotedEscape
        again part s
      else again ['\\'] s.forward
    | _ => return (cs, s)

/-- The spaces or line breaks inside a quoted scalar. -/
def quotedSpaces (s : Scanner) : Except Fault (List Char × Scanner) := do
  let (spaces, s) := s.span fun c => c == ' ' || c == '\t'
  match s.peek 0 with
  | none => throw .malformed
  | some c =>
    if isBreak c then
      let (b, s) := s.lineBreak
      let (breaks, s) ← quotedBreaks (s.rest.length + 1) s
      let joint := if b != ['\n'] then b else if breaks.isEmpty then [' '] else []
      return (joint ++ breaks, s)
    else return (spaces, s)

/-- The rest of a quoted scalar. -/
def quotedRest (double : Bool) : Nat → List Char → Scanner → Except Fault (List Char × Scanner)
  | 0, _, _ => .error .malformed
  | fuel + 1, acc, s => do
    if s.peek 0 == some (if double then '"' else '\x27') then return (acc, s.forward)
    let (spaces, s) ← s.quotedSpaces
    let (word, s) ← quotedWord double (s.rest.length + 1) s
    quotedRest double fuel (acc ++ spaces ++ word) s

/-- A quoted scalar. -/
def quotedScalar (double : Bool) (s : Scanner) : Except Fault (Token × Scanner) := do
  let s := s.forward
  let (word, s) ← quotedWord double (s.rest.length + 1) s
  let (text, s) ← quotedRest double (s.rest.length + 1) word s
  return (.scalar (String.ofList text) false, s)

/-- Whether a plain scalar stops in front of a character. -/
def stopsPlain (inFlow : Bool) (c : Char) (rest : List Char) : Bool :=
  isSpace c ||
    (c == ':' && rest.head?.all fun d =>
      isSpace d || (inFlow && ",[]\x7b\x7d".toList.contains d)) ||
    (inFlow && ",?[]\x7b\x7d".toList.contains c)

/-- The characters of a plain scalar up to a space or its end. -/
def plainWord (inFlow : Bool) : List Char → List Char
  | [] => []
  | c :: cs => if stopsPlain inFlow c cs then [] else c :: plainWord inFlow cs

/-- The line breaks behind the first one inside a plain scalar, unless a separator of documents
follows. -/
def plainBreaks : Nat → Scanner → Option (List Char) × Scanner
  | 0, s => (some [], s)
  | fuel + 1, s =>
    if s.peek 0 == some ' ' then plainBreaks fuel s.forward
    else
      let (b, s) := s.lineBreak
      if b.isEmpty then (some [], s)
      else if s.atSeparator then (none, s)
      else
        let (bs, s) := plainBreaks fuel s
        (bs.map (b ++ ·), s)

/-- The spaces or line breaks behind a word of a plain scalar, as they count if the scalar goes
on. -/
def plainSpaces (s : Scanner) : List Char × Scanner :=
  let (spaces, s) := s.span (· == ' ')
  let (b, s) := s.lineBreak
  if b.isEmpty then (spaces, s)
  else
    let s := { s with allowKey := true }
    if s.atSeparator then ([], s)
    else
      match plainBreaks (s.rest.length + 1) s with
      | (none, s) => ([], s)
      | (some breaks, s) =>
        ((if b != ['\n'] then b else if breaks.isEmpty then [' '] else []) ++ breaks, s)

/-- The rest of a plain scalar. -/
def plainRest (indent : Int) : Nat → List Char → List Char → Scanner → List Char × Scanner
  | 0, acc, _, s => (acc, s)
  | fuel + 1, acc, spaces, s =>
    if s.peek 0 == some '#' then (acc, s)
    else
      let word := plainWord (s.flow != 0) s.rest
      if word.isEmpty then (acc, s)
      else
        let s := { s with allowKey := false }
        let acc := acc ++ spaces ++ word
        let (spaces, s) := (s.skip word.length).plainSpaces
        if spaces.isEmpty || s.peek 0 == some '#' ||
            (s.flow == 0 && decide ((s.column : Int) < indent)) then (acc, s)
        else plainRest indent fuel acc spaces s

/-- A plain scalar. -/
def plainScalar (s : Scanner) : Token × Scanner :=
  let (text, s) := plainRest (s.indent + 1) (s.rest.length + 1) [] [] s
  (.scalar (String.ofList text) true, s)

/-- Whether a plain scalar may start here. -/
def startsPlain (s : Scanner) : Bool :=
  match s.peek 0 with
  | none => false
  | some c =>
    !(isSpace c || "-?:,[]\x7b\x7d#&*!|>\x27\"%@\x60".toList.contains c) ||
      (!endsToken (s.peek 1) && (c == '-' || (s.flow == 0 && (c == '?' || c == ':'))))

/-! ## Tokens -/

/-- Closes all block collections for a token that belongs to none. -/
def leaveBlocks (s : Scanner) : Except Fault Scanner := do
  let s ← (s.unwindTo (-1)).dropKey
  return { s with allowKey := false }

/-- The start of a flow collection. -/
def flowStart (s : Scanner) (t : Token) : Except Fault Scanner := do
  let s ← s.noteKey
  return { s.forward.emit t with flow := s.flow + 1, allowKey := true }

/-- The end of a flow collection. -/
def flowEnd (s : Scanner) (t : Token) : Except Fault Scanner := do
  let s ← s.dropKey
  return { s.forward.emit t with flow := s.flow - 1, allowKey := false }

/-- The hyphen of a sequence. -/
def entry (s : Scanner) : Except Fault Scanner := do
  let s ←
    if s.flow == 0 then
      if !s.allowKey then throw Fault.malformed
      else
        let (opened, s) := s.openBlock s.column
        pure (if opened then s.emit .blockSequenceStart else s)
    else pure s
  let s ← { s with allowKey := true }.dropKey
  return s.forward.emit .blockEntry

/-- The question mark of a key. -/
def explicitKey (s : Scanner) : Except Fault Scanner := do
  let s ←
    if s.flow == 0 then
      if !s.allowKey then throw Fault.malformed
      else
        let (opened, s) := s.openBlock s.column
        pure (if opened then s.emit .blockMappingStart else s)
    else pure s
  let s ← { s with allowKey := s.flow == 0 }.dropKey
  return s.forward.emit .key

/-- The colon of a value. -/
def colon (s : Scanner) : Except Fault Scanner := do
  match Assoc.get? s.keys s.flow with
  | some k =>
    let s := { s with keys := Assoc.erase s.keys s.flow }.emitAt k.token .key
    let s :=
      if s.flow == 0 then
        let (opened, s) := s.openBlock k.column
        if opened then s.emitAt k.token .blockMappingStart else s
      else s
    return { s with allowKey := false }.forward.emit .value
  | none =>
    let s ←
      if s.flow == 0 then
        if !s.allowKey then throw Fault.malformed
        else
          let (opened, s) := s.openBlock s.column
          pure (if opened then s.emit .blockMappingStart else s)
      else pure s
    let s ← { s with allowKey := s.flow == 0 }.dropKey
    return s.forward.emit .value

/-- A token that may begin a key. -/
def keyed (s : Scanner) (scan : Scanner → Except Fault (Token × Scanner)) :
    Except Fault Scanner := do
  let s ← s.noteKey
  let (t, s) ← scan { s with allowKey := false }
  return s.emit t

/-- The next token; `true` at the end of the text. -/
def step (s : Scanner) : Except Fault (Bool × Scanner) := do
  let s := s.skipBlank (s.rest.length + 1)
  let s ← s.dropStaleKeys
  let s := s.unwindTo s.column
  let go (r : Except Fault Scanner) : Except Fault (Bool × Scanner) := r.map (false, ·)
  match s.peek 0 with
  | none =>
    let s ← s.leaveBlocks
    return (true, s.emit .streamEnd)
  | some c =>
    if c == '%' && s.column == 0 then go do
      let (t, s) ← (← s.leaveBlocks).directive
      return s.emit t
    else if s.column == 0 && s.atSeparator then go do
      let s ← s.leaveBlocks
      return (s.skip 3).emit (if c == '-' then .documentStart else .documentEnd)
    else if c == '[' then go (s.flowStart .flowSequenceStart)
    else if c == '\x7b' then go (s.flowStart .flowMappingStart)
    else if c == ']' then go (s.flowEnd .flowSequenceEnd)
    else if c == '\x7d' then go (s.flowEnd .flowMappingEnd)
    else if c == ',' then go do
      let s ← { s with allowKey := true }.dropKey
      return s.forward.emit .flowEntry
    else if c == '-' && endsToken (s.peek 1) then go s.entry
    else if c == '?' && (s.flow != 0 || endsToken (s.peek 1)) then go s.explicitKey
    else if c == ':' && (s.flow != 0 || endsToken (s.peek 1)) then go s.colon
    else if c == '*' then go (s.keyed fun s => s.anchorName.map fun (n, s) => (.alias n, s))
    else if c == '&' then go (s.keyed fun s => s.anchorName.map fun (n, s) => (.anchor n, s))
    else if c == '!' then go (s.keyed tagToken)
    else if (c == '|' || c == '>') && s.flow == 0 then go do
      let s ← { s with allowKey := true }.dropKey
      let (t, s) ← s.blockScalar (c == '>')
      return s.emit t
    else if c == '\x27' then go (s.keyed (quotedScalar false))
    else if c == '"' then go (s.keyed (quotedScalar true))
    else if s.startsPlain then go (s.keyed fun s => .ok s.plainScalar)
    else throw .malformed

/-- All tokens from here on. Every token takes at least a character. -/
def run : Nat → Scanner → Except Fault (List Token)
  | 0, _ => .error .malformed
  | fuel + 1, s => do
    let (done, s) ← s.step
    if done then return s.tokens.toList else run fuel s

end Scanner

/-- The tokens of a text. A byte order mark at its start is skipped. -/
def Token.scan (text : String) : Except Fault (List Token) :=
  let cs := text.toList
  if !cs.all isAllowed then .error .malformed
  else
    let s : Scanner := ⟨cs, 0, 0, 0, 0, #[], -1, [], true, []⟩
    let s := if (cs.head?.any fun c => c.toNat == 0xfeff) then s.forward else s
    s.run (cs.length + 2)

end RouteSchema.Yaml
