import RouteSchema.Assoc
import RouteSchema.Number.Literal
import RouteSchema.Regex.Basic
import RouteSchema.Text.Identifier

/-!
# Reading regular expressions

The syntax of placeholder patterns: literals, classes, anchors, greedy, lazy and possessive rounds,
capturing, named, atomic and flagged groups, look-around, back references, conditions and comments.

* `Regex.read` reads an expression with its initial flags; the result says how many groups capture.
  `Regex.readNamed` knows characters by name as well.
* `Fault` tells an expression that is none from one whose numbers or flags are out of bounds.
-/

namespace RouteSchema.Regex

/-- Why an expression is refused. -/
inductive Fault
  /-- It does not follow the syntax. -/
  | malformed
  /-- A number of rounds is too large. -/
  | tooManyRounds
  /-- A number of rounds has more digits than an integer is read from. -/
  | tooManyDigits
  /-- Two character sets are chosen at once. -/
  | conflictingFlags
  deriving DecidableEq, Repr

/-- A character of an expression, or one behind a backslash. -/
inductive Token
  | plain (c : Char)
  | escaped (c : Char)
  deriving DecidableEq, Repr

/-- The tokens of an expression; a backslash at the end escapes nothing. -/
def tokens : List Char → Except Fault (List Token)
  | [] => .ok []
  | ['\\'] => .error .malformed
  | '\\' :: c :: cs => (tokens cs).map (.escaped c :: ·)
  | c :: cs => (tokens cs).map (.plain c :: ·)

/-- The characters of a token. -/
def Token.chars : Token → List Char
  | .plain c => [c]
  | .escaped c => ['\\', c]

/-- What the reader knows besides the tokens left. -/
structure State where
  /-- The characters known by name. -/
  named? : String → Option Char
  flags : Flags
  /-- The number of capturing groups begun. -/
  groups : Nat
  names : Assoc String Nat
  /-- The widths of the groups that are closed. -/
  widths : Assoc Nat Width
  /-- Inside a look-behind: the number of groups begun before it. -/
  behind : Option Nat
  /-- The groups that conditions ask for by number. -/
  conditions : List Nat

/-- The width of a group by number. -/
def State.widthOf (st : State) (n : Nat) : Width := (Assoc.get? st.widths n).getD ⟨0, some 0⟩

/-- Whether a group may be referred to: it is closed, and inside a look-behind it was begun before
that. -/
def State.admits (st : State) (n : Nat) : Bool :=
  Assoc.contains st.widths n && st.behind.all (n ≤ ·)

/-- Whether a condition may ask for a group. -/
def State.admitsCondition (st : State) (n : Nat) : Bool :=
  st.behind.isNone || st.admits n

/-- A value of the reader, the state after it and the tokens left. -/
abbrev Step (α : Type) := α × State × List Token

/-- The value of an octal digit. -/
def octal? : Token → Option Nat
  | .plain c => Literal.digit? 8 c
  | .escaped _ => none

/-- The value of a decimal digit. -/
def decimal? : Token → Option Nat
  | .plain c => Literal.digit? 10 c
  | .escaped _ => none

/-- The value of a hexadecimal digit. -/
def hex? : Token → Option Nat
  | .plain c => Literal.digit? 16 c
  | .escaped _ => none

/-- The value of exactly `n` hexadecimal digits. -/
def hexCode (n : Nat) (ts : List Token) : Except Fault (Nat × List Token) :=
  match (ts.take n).mapM hex? with
  | some ds => if ds.length == n then .ok (ds.foldl (· * 16 + ·) 0, ts.drop n)
    else .error .malformed
  | none => .error .malformed

/-- The digits at the start of the tokens, at most `n`, and the tokens after them. -/
def spanDigits (digit? : Token → Option Nat) : Nat → List Token → List Nat × List Token
  | 0, ts => ([], ts)
  | _, [] => ([], [])
  | n + 1, t :: ts =>
    match digit? t with
    | some d =>
      let (ds, rest) := spanDigits digit? n ts
      (d :: ds, rest)
    | none => ([], t :: ts)

/-- The control characters with an escape of their own. -/
def controlEscape? : Char → Option Nat
  | 'a' => some 7
  | 'f' => some 12
  | 'n' => some 10
  | 'r' => some 13
  | 't' => some 9
  | 'v' => some 11
  | '\\' => some 92
  | _ => none

/-- The class of an escaped letter. -/
def categoryEscape? : Char → Option ClassItem
  | 'd' => some (.category .digit false)
  | 'D' => some (.category .digit true)
  | 's' => some (.category .space false)
  | 'S' => some (.category .space true)
  | 'w' => some (.category .word false)
  | 'W' => some (.category .word true)
  | _ => none

/-- The place of an escaped letter. -/
def anchorEscape? : Char → Option Anchor
  | 'A' => some .textStart
  | 'Z' => some .textEnd
  | 'b' => some .boundary
  | 'B' => some .inside
  | _ => none

/-- The characters up to a terminator, of which there is at least one. -/
def nameUntil (stop : Char) : List Token → List Char → Except Fault (String × List Token)
  | [], _ => .error .malformed
  | t :: ts, acc =>
    if t == .plain stop then
      if acc.isEmpty then .error .malformed else .ok (String.ofList acc, ts)
    else nameUntil stop ts (acc ++ t.chars)

/-- A character by its name in braces. -/
def namedCode (named? : String → Option Char) : List Token → Except Fault (Nat × List Token)
  | .plain '\x7b' :: ts => do
    let (name, rest) ← nameUntil '\x7d' ts []
    match named? name with
    | some c => .ok (c.toNat, rest)
    | none => .error .malformed
  | _ => .error .malformed

/-- An escape of a character by its code or by its name. -/
def codeEscape? (named? : String → Option Char) (c : Char) (ts : List Token) :
    Option (Except Fault (Nat × List Token)) :=
  match c with
  | 'x' => some (hexCode 2 ts)
  | 'u' => some (hexCode 4 ts)
  | 'U' => some (do
      let (n, rest) ← hexCode 8 ts
      if n < 0x110000 then .ok (n, rest) else .error .malformed)
  | 'N' => some (namedCode named? ts)
  | _ => none

/-- The code of an octal escape. -/
def octalCode (ds : List Nat) (rest : List Token) : Except Fault (Nat × List Token) :=
  let n := ds.foldl (· * 8 + ·) 0
  if n > 0o377 then .error .malformed else .ok (n, rest)

/-- An escape inside a class. -/
def classEscape (named? : String → Option Char) (c : Char) (ts : List Token) :
    Except Fault (ClassItem × List Token) :=
  if c == 'b' then .ok (.code 8, ts)
  else
    match controlEscape? c, categoryEscape? c, codeEscape? named? c ts with
    | some n, _, _ => .ok (.code n, ts)
    | _, some item, _ => .ok (item, ts)
    | _, _, some r => r.map fun (n, rest) => (.code n, rest)
    | _, _, _ =>
      if '0' ≤ c && c ≤ '7' then
        let (ds, rest) := spanDigits octal? 2 ts
        (octalCode ((c.toNat - 48) :: ds) rest).map fun (n, rest) => (.code n, rest)
      else if c.isDigit || c.isAlpha then .error .malformed
      else .ok (.code c.toNat, ts)

/-- A reference to a group by number. -/
def reference (st : State) (n : Nat) (ts : List Token) : Except Fault (Step Regex) :=
  if n ≤ st.groups && st.admits n then .ok (.backref n, st, ts) else .error .malformed

/-- An escape outside classes. -/
def escape (st : State) (c : Char) (ts : List Token) : Except Fault (Step Regex) :=
  match anchorEscape? c, categoryEscape? c, controlEscape? c, codeEscape? st.named? c ts with
  | some a, _, _, _ => .ok (.anchor a, st, ts)
  | _, some item, _, _ => .ok (.char (.oneOf [item] false), st, ts)
  | _, _, some n, _ => .ok (.char (.code n false), st, ts)
  | _, _, _, some r => r.map fun (n, rest) => (.char (.code n false), st, rest)
  | _, _, _, _ =>
    if c == '0' then
      let (ds, rest) := spanDigits octal? 2 ts
      .ok (.char (.code (ds.foldl (· * 8 + ·) 0) false), st, rest)
    else if c.isDigit then
      let first := c.toNat - 48
      match ts with
      | t :: ts' =>
        match decimal? t with
        | some second =>
          match ts'.head?.bind octal? with
          | some third =>
            if first ≤ 7 && second ≤ 7 then
              (octalCode [first, second, third] (ts'.drop 1)).map fun (n, rest) =>
                (.char (.code n false), st, rest)
            else reference st (first * 10 + second) ts'
          | none => reference st (first * 10 + second) ts'
        | none => reference st first ts
      | [] => reference st first ts
    else if c.isAlpha then .error .malformed
    else .ok (.char (.code c.toNat false), st, ts)

/-- One end of a range or an item of a class. -/
def classAtom (named? : String → Option Char) :
    Token → List Token → Except Fault (ClassItem × List Token)
  | .plain c, ts => .ok (.code c.toNat, ts)
  | .escaped c, ts => classEscape named? c ts

/-- The items of a class up to its closing bracket, which is an item itself if it comes first. The
first argument bounds the recursion. -/
def classItems (named? : String → Option Char) :
    Nat → List ClassItem → List Token → Except Fault (List ClassItem × List Token)
  | 0, _, _ => .error .malformed
  | _, _, [] => .error .malformed
  | fuel + 1, acc, t :: ts =>
    if t == .plain ']' && !acc.isEmpty then .ok (acc.reverse, ts)
    else do
      let (item, ts) ← classAtom named? t ts
      match ts with
      | .plain '-' :: [] => .error .malformed
      | .plain '-' :: .plain ']' :: rest => .ok ((.code 45 :: item :: acc).reverse, rest)
      | .plain '-' :: t' :: rest =>
        let (last, rest) ← classAtom named? t' rest
        match item, last with
        | .code a, .code b =>
          if b < a then .error .malformed else classItems named? fuel (.range a b :: acc) rest
        | _, _ => .error .malformed
      | ts => classItems named? fuel (item :: acc) ts

/-- A class after its opening bracket. -/
def charClass (named? : String → Option Char) (ts : List Token) :
    Except Fault (Regex × List Token) := do
  let (negated, ts) := match ts with
    | .plain '^' :: ts => (true, ts)
    | ts => (false, ts)
  let (items, rest) ← classItems named? (ts.length + 1) [] ts
  match items with
  | [.code n] => .ok (.char (.code n negated), rest)
  | items => .ok (.char (.oneOf items negated), rest)

/-- The flag of a letter. -/
def flag? : Token → Option Flags
  | .plain 'i' => some { ignoreCase := true }
  | .plain 'm' => some { multiline := true }
  | .plain 's' => some { dotAll := true }
  | .plain 'x' => some { verbose := true }
  | .plain 'a' => some { ascii := true }
  | .plain 'u' => some { unicode := true }
  | .plain 't' => some { template := true }
  | _ => none

/-- The letters of flags up to a character that is none, and that character. -/
def flagLetters : List Token → Flags → Except Fault (Flags × Char × List Token)
  | [], _ => .error .malformed
  | t :: ts, acc =>
    match flag? t with
    | some f =>
      if (f.ascii && acc.unicode) || (f.unicode && acc.ascii) then .error .malformed
      else flagLetters ts (acc.union f)
    | none =>
      match t with
      | .plain c => .ok (acc, c, ts)
      | .escaped _ => .error .malformed

/-- The flags of a group from their first letter on: for the whole expression, or turned on and off
inside the group. -/
def groupFlags (ts : List Token) : Except Fault ((Flags ⊕ Flags × Flags) × List Token) := do
  let (on, stop, rest) ← flagLetters ts {}
  if stop == ')' then
    if on == {} then .error .malformed else .ok (.inl on, rest)
  else if on.template then .error .malformed
  else if stop == ':' then .ok (.inr (on, {}), rest)
  else if stop == '-' then
    let (off, stop, rest) ← flagLetters rest {}
    if off == {} || stop != ':' || off.ascii || off.unicode || off.template then
      .error .malformed
    else if on != on.without off then .error .malformed
    else .ok (.inr (on, off), rest)
  else .error .malformed

/-- The largest number of rounds, exclusive. -/
def roundsLimit : Nat := 4294967295

/-- The bounds of rounds in braces, if there are any. -/
def bounds? (ts : List Token) : Option (Except Fault (Nat × Option Nat × List Token)) :=
  let (lo, rest) := spanDigits decimal? ts.length ts
  let (hi, rest) := match rest with
    | .plain ',' :: rest => spanDigits decimal? rest.length rest
    | rest => (lo, rest)
  match rest with
  | .plain '\x7d' :: rest =>
    let number (ds : List Nat) : Nat := ds.foldl (· * 10 + ·) 0
    some (
      if lo.length > Value.digitLimit then .error .tooManyDigits
      else if number lo ≥ roundsLimit then .error .tooManyRounds
      else if hi.length > Value.digitLimit then .error .tooManyDigits
      else if number hi ≥ roundsLimit then .error .tooManyRounds
      else if hi.isEmpty then .ok (number lo, none, rest)
      else if number hi < number lo then .error .malformed
      else .ok (number lo, some (number hi), rest))
  | _ => none

/-- Wraps the item read last into rounds. -/
def addRounds (least : Nat) (most : Option Nat) (acc : List Regex) (ts : List Token) :
    Except Fault (List Regex × List Token) :=
  match acc with
  | [] | .anchor _ :: _ | .rounds _ _ _ _ :: _ => .error .malformed
  | item :: acc =>
    let (greed, ts) := match ts with
      | .plain '?' :: ts => (Greed.lazy, ts)
      | .plain '+' :: ts => (Greed.possessive, ts)
      | ts => (Greed.greedy, ts)
    .ok (.rounds greed least most item :: acc, ts)

/-- Expressions one after the other, the last one first. -/
def sequence (acc : List Regex) : Regex :=
  match acc with
  | [] => .empty
  | last :: acc => acc.foldl (fun r item => .cat item r) last

/-- White space that a verbose expression skips. -/
def isSkipped (c : Char) : Bool := c == ' ' || (0x9 ≤ c.toNat && c.toNat ≤ 0xd)

/-- The tokens after a comment that ends with the line. -/
def skipLine : List Token → List Token
  | [] => []
  | .plain '\n' :: ts => ts
  | _ :: ts => skipLine ts

/-- The tokens after a comment in parentheses. -/
def skipComment : List Token → Except Fault (List Token)
  | [] => .error .malformed
  | .plain ')' :: ts => .ok ts
  | _ :: ts => skipComment ts

/-- The tokens after a closing parenthesis. -/
def closing : List Token → Except Fault (List Token)
  | .plain ')' :: ts => .ok ts
  | _ => .error .malformed

/-- The group a condition asks for, by name or by number. -/
def conditionGroup (st : State) (name : String) : Except Fault (Nat × State) :=
  if Text.isIdentifier name then
    match Assoc.get? st.names name with
    | some n => .ok (n, st)
    | none => .error .malformed
  else
    match name.toList.all Char.isDigit, name.toNat? with
    | true, some n =>
      if n == 0 || n ≥ 1073741823 then .error .malformed
      else .ok (n, { st with conditions := n :: st.conditions })
    | _, _ => .error .malformed

/-- Begins a capturing group. -/
def State.beginGroup (st : State) (name : Option String) : Except Fault (Nat × State) :=
  let n := st.groups + 1
  match name with
  | none => .ok (n, { st with groups := n })
  | some name =>
    if Assoc.contains st.names name then .error .malformed
    else .ok (n, { st with groups := n, names := Assoc.insert st.names name n })

/-- Closes a capturing group. -/
def State.closeGroup (st : State) (n : Nat) (r : Regex) : State :=
  { st with widths := Assoc.insert st.widths n (r.width st.widthOf) }

mutual

/-- Alternatives up to a closing parenthesis or the end. The first argument bounds the depth of
the recursion; `top` holds outside all groups. -/
def alternatives : Nat → State → Bool → Bool → List Token → Bool → Except Fault (Step Regex)
  | 0, _, _, _, _, _ => .error .malformed
  | fuel + 1, st, verbose, top, ts, first => do
    let (r, st, ts) ← items fuel st verbose (top && first) ts []
    match ts with
    | .plain '|' :: rest =>
      let verbose := if top then st.flags.verbose else verbose
      let (s, st, rest) ← alternatives fuel st verbose top rest false
      .ok (.alt r s, st, rest)
    | ts => .ok (r, st, ts)

/-- Items one after the other; `first` holds at the start of the whole expression, where flags for
all of it may stand. -/
def items : Nat → State → Bool → Bool → List Token → List Regex → Except Fault (Step Regex)
  | 0, _, _, _, _, _ => .error .malformed
  | fuel + 1, st, verbose, first, ts, acc =>
    let single (test : CharTest) (ts : List Token) :=
      items fuel st verbose first ts (.char test :: acc)
    let rounds (least : Nat) (most : Option Nat) (ts : List Token) : Except Fault (Step Regex) := do
      let (acc, ts) ← addRounds least most acc ts
      items fuel st verbose first ts acc
    match ts with
    | [] => .ok (sequence acc, st, [])
    | .escaped c :: ts => do
      let (r, st, ts) ← escape st c ts
      items fuel st verbose first ts (r :: acc)
    | .plain c :: ts =>
      if c == '|' || c == ')' then .ok (sequence acc, st, .plain c :: ts)
      else if verbose && isSkipped c then items fuel st verbose first ts acc
      else if verbose && c == '#' then items fuel st verbose first (skipLine ts) acc
      else if c == '[' then do
        let (r, ts) ← charClass st.named? ts
        items fuel st verbose first ts (r :: acc)
      else if c == '?' then rounds 0 (some 1) ts
      else if c == '*' then rounds 0 none ts
      else if c == '+' then rounds 1 none ts
      else if c == '\x7b' then
        if ts.head? == some (.plain '\x7d') then single (.code c.toNat false) ts
        else
          match bounds? ts with
          | some (.ok (least, most, ts)) => rounds least most ts
          | some (.error e) => .error e
          | none => single (.code c.toNat false) ts
      else if c == '.' then single .any ts
      else if c == '^' then items fuel st verbose first ts (.anchor .lineStart :: acc)
      else if c == '$' then items fuel st verbose first ts (.anchor .lineEnd :: acc)
      else if c == '(' then do
        match ts with
        | .plain '?' :: .plain '#' :: ts =>
          let ts ← skipComment ts
          items fuel st verbose first ts acc
        | .plain '?' :: .plain '=' :: ts => lookAt fuel st verbose first ts acc false false
        | .plain '?' :: .plain '!' :: ts => lookAt fuel st verbose first ts acc false true
        | .plain '?' :: .plain '<' :: .plain '=' :: ts =>
          lookAt fuel st verbose first ts acc true false
        | .plain '?' :: .plain '<' :: .plain '!' :: ts =>
          lookAt fuel st verbose first ts acc true true
        | .plain '?' :: .plain '(' :: ts => condition fuel st verbose first ts acc
        | .plain '?' :: .plain 'P' :: .plain '=' :: ts =>
          let (name, ts) ← nameUntil ')' ts []
          match Text.isIdentifier name, Assoc.get? st.names name with
          | true, some n =>
            let (r, st, ts) ← reference st n ts
            items fuel st verbose first ts (r :: acc)
          | _, _ => .error .malformed
        | .plain '?' :: .plain 'P' :: .plain '<' :: ts =>
          let (name, ts) ← nameUntil '>' ts []
          if Text.isIdentifier name then capture fuel st verbose first ts acc (some name)
          else .error .malformed
        | .plain '?' :: .plain ':' :: ts => grouped fuel st verbose first ts acc {} {} false
        | .plain '?' :: .plain '>' :: ts => grouped fuel st verbose first ts acc {} {} true
        | .plain '?' :: ts =>
          let (flags, ts) ← groupFlags ts
          match flags with
          | .inl flags =>
            if first && acc.isEmpty then
              let st := { st with flags := st.flags.union flags }
              items fuel st st.flags.verbose first ts acc
            else .error .malformed
          | .inr (on, off) => grouped fuel st verbose first ts acc on off false
        | ts => capture fuel st verbose first ts acc none
      else single (.code c.toNat false) ts

/-- A capturing group after its head. -/
def capture : Nat → State → Bool → Bool → List Token → List Regex → Option String →
    Except Fault (Step Regex)
  | 0, _, _, _, _, _, _ => .error .malformed
  | fuel + 1, st, verbose, first, ts, acc, name => do
    let (n, st) ← st.beginGroup name
    let (r, st, ts) ← alternatives fuel st verbose false ts false
    let ts ← closing ts
    items fuel (st.closeGroup n r) verbose first ts (.group n r :: acc)

/-- A group that does not capture, after its head. -/
def grouped : Nat → State → Bool → Bool → List Token → List Regex → Flags → Flags → Bool →
    Except Fault (Step Regex)
  | 0, _, _, _, _, _, _, _, _ => .error .malformed
  | fuel + 1, st, verbose, first, ts, acc, on, off, isAtomic => do
    let inner := (verbose || on.verbose) && !off.verbose
    let (r, st, ts) ← alternatives fuel st inner false ts false
    let ts ← closing ts
    let r := if isAtomic then .atomic r else .flagged on off r
    items fuel st verbose first ts (r :: acc)

/-- A look-around after its head. -/
def lookAt : Nat → State → Bool → Bool → List Token → List Regex → Bool → Bool →
    Except Fault (Step Regex)
  | 0, _, _, _, _, _, _, _ => .error .malformed
  | fuel + 1, st, verbose, first, ts, acc, behind, negated => do
    let outer := st.behind
    let st := if behind && outer.isNone then { st with behind := some st.groups } else st
    let (r, st, ts) ← alternatives fuel st verbose false ts false
    let st := { st with behind := outer }
    let ts ← closing ts
    if behind then
      let w := r.width st.widthOf
      if w.most == some w.least then
        items fuel st verbose first ts (.look (some w.least) negated r :: acc)
      else .error .malformed
    else items fuel st verbose first ts (.look none negated r :: acc)

/-- A condition after its head. -/
def condition : Nat → State → Bool → Bool → List Token → List Regex → Except Fault (Step Regex)
  | 0, _, _, _, _, _ => .error .malformed
  | fuel + 1, st, verbose, first, ts, acc => do
    let (name, ts) ← nameUntil ')' ts []
    let (n, st) ← conditionGroup st name
    if !st.admitsCondition n then .error .malformed
    else
      let (yes, st, ts) ← items fuel st verbose false ts []
      match ts with
      | .plain '|' :: ts =>
        let (no, st, ts) ← items fuel st verbose false ts []
        let ts ← closing ts
        items fuel st verbose first ts (.cond n yes no :: acc)
      | ts =>
        let ts ← closing ts
        items fuel st verbose first ts (.cond n yes .empty :: acc)

end

/-- An expression that was read: its tree, its flags and the number of groups that capture. -/
structure Program where
  tree : Regex
  flags : Flags
  groups : Nat
  deriving DecidableEq, Repr

/-- Reads an expression with its initial flags, with characters known by name. -/
def readNamed (named? : String → Option Char) (source : String) (flags : Flags) :
    Except Fault Program := do
  let ts ← tokens source.toList
  let st : State := ⟨named?, flags, 0, [], [], none, []⟩
  let (tree, st, rest) ← alternatives (4 * ts.length + 4) st flags.verbose true ts true
  if st.flags.ascii && st.flags.unicode then .error .conflictingFlags
  else if !rest.isEmpty then .error .malformed
  else if st.conditions.any (· > st.groups) then .error .malformed
  else .ok ⟨tree, st.flags, st.groups⟩

/-- Reads an expression in which no character is known by name. -/
def read (source : String) (flags : Flags) : Except Fault Program :=
  readNamed (fun _ => none) source flags

end RouteSchema.Regex
