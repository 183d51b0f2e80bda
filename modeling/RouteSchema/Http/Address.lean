import RouteSchema.Number.Literal
import RouteSchema.Platform

/-!
# Addresses of requests

Which texts are addresses that a request can be made of: a scheme, an authority with a host and a
number behind it, a path, a query and a fragment. Everything may be missing, but what is there must
be sound.

* `Address.isSound` tells sound addresses from the others. The platform decides on hosts with
  characters outside ASCII.
-/

namespace RouteSchema.Http.Address

/-- The largest number of characters of an address. -/
def limit : Nat := 65536

/-- A control character of ASCII. -/
def isControl (c : Char) : Bool := c.toNat < 0x20 || c.toNat == 0x7f

/-- The pieces of a text between separators. -/
def pieces (separator : Char) (cs : List Char) : List (List Char) := cs.splitOn separator

/-! ## Parts -/

/-- The scheme with which an address begins, and what follows its colon. A colon at the very front
ends an empty scheme. -/
def splitScheme (cs : List Char) : List Char × List Char :=
  let name := cs.takeWhile fun c => c.isAlphanum || c == '+' || c == '.' || c == '-'
  let proper := match name with
    | [] => true
    | c :: _ => c.isAlpha
  match cs.drop name.length with
  | ':' :: rest => if proper then (name, rest) else ([], cs)
  | _ => ([], cs)

/-- The authority after two slashes, and what follows it. -/
def splitAuthority : List Char → List Char × List Char
  | '/' :: '/' :: cs =>
    let inside := fun c => c != '/' && c != '?' && c != '#'
    (cs.takeWhile inside, cs.dropWhile inside)
  | cs => ([], cs)

/-- What stands before the last `@` of an authority, and what follows it. -/
def splitUser (cs : List Char) : List Char × List Char :=
  if cs.contains '@' then
    let host := (cs.reverse.takeWhile (· != '@')).reverse
    (cs.take (cs.length - host.length - 1), host)
  else ([], cs)

/-- The host, in brackets or up to a colon, and what follows it. -/
def splitHost (cs : List Char) : List Char × List Char :=
  if cs.head? == some '[' && cs.contains ']' then
    let rest := (cs.reverse.takeWhile (· != ']')).reverse
    (cs.take (cs.length - rest.length), rest)
  else (cs.takeWhile (· != ':'), cs.dropWhile (· != ':'))

/-! ## Hosts -/

/-- A part of a numeric host: one to three digits without a zero in front, at most 255. -/
def isOctet (cs : List Char) : Bool :=
  cs.all Char.isDigit && cs.length ≤ 3 && (cs.length == 1 || cs.head? != some '0') &&
    (Literal.natural? 10 cs).any (· ≤ 255)

/-- Four octets with points between them. -/
def isNumericHost (cs : List Char) : Bool :=
  let parts := pieces '.' cs
  parts.length == 4 && parts.all isOctet

/-- Groups of digits with any character between two of them; `more` groups follow the first. -/
def isDigitGroups : (more : Nat) → List Char → Bool
  | 0, cs => !cs.isEmpty && cs.all Char.isDigit
  | n + 1, cs =>
    (List.range cs.length).any fun i =>
      0 < i && (cs.take i).all Char.isDigit && isDigitGroups n (cs.drop (i + 1))

/-- One to four hexadecimal digits. -/
def isHextet (cs : List Char) : Bool :=
  cs.length ≤ 4 && (Literal.natural? 16 cs).isSome

/-- Hextets on one side of a gap. Nothing else may stand beside a piece that is empty. -/
def isGapSide (outer : Option (List Char)) (parts : List (List Char)) : Bool :=
  if outer == some [] then parts.length == 1 else parts.all isHextet

/-- Eight hextets with colons between them. A run of zeros may be left out once, and the last two
hextets may be written as a numeric host. -/
def isHextets (cs : List Char) : Bool :=
  let given := pieces ':' cs
  let last := given.getLastD []
  let numeric := last.contains '.'
  let parts := if numeric then given.dropLast ++ [['0'], ['0']] else given
  let gaps := (List.range parts.length).filter fun i =>
    0 < i && i + 1 < parts.length && (parts.getD i []).isEmpty
  3 ≤ given.length && parts.length ≤ 9 && (!numeric || isNumericHost last) &&
    match gaps with
    | [] => parts.length == 8 && parts.all isHextet
    | [i] =>
      let before := parts.take i
      let after := parts.drop (i + 1)
      isGapSide before.head? before && isGapSide after.getLast? after &&
        (before ++ after).countP (!·.isEmpty) ≤ 7
    | _ => false

/-- A host in brackets, with an optional zone behind a percent sign. -/
def isBracketHost (cs : List Char) : Bool :=
  let host := cs.takeWhile (· != '%')
  let zone := (cs.drop host.length).drop 1
  let zoned := cs.contains '%'
  (!zoned || (!zone.isEmpty && !zone.contains '%')) && !cs.contains '/' && isHextets host

/-- A sound host; it may be empty. -/
def isHost [Platform] (cs : List Char) : Bool :=
  if cs.isEmpty then true
  else if isDigitGroups 3 cs then isNumericHost cs
  else if cs.head? == some '[' && cs.getLast? == some ']' then isBracketHost (cs.drop 1).dropLast
  else cs.all (·.toNat < 0x80) || Platform.encodesHost cs

/-! ## Numbers behind hosts -/

/-- The numbers that go without saying, by scheme. -/
def usualNumbers : List (String × Int) :=
  [("ftp", 21), ("http", 80), ("https", 443), ("ws", 80), ("wss", 443)]

/-- The number behind a host: digits of any script with a sign, with blanks around them and single
underscores between them. -/
def hostNumber? (cs : List Char) : Option Int :=
  let (negative, digits) := Literal.splitSign (Text.trimWhile Text.isBlank cs)
  let doubled := (digits.zip digits.tail).any fun (a, b) => a == '_' && b == '_'
  if digits.head? == some '_' || digits.getLast? == some '_' || doubled then none
  else
    (Literal.natural? 10 ((digits.filter (· != '_')).map Text.plainDigit)).map fun n =>
      if negative then -(n : Int) else n

/-! ## Addresses -/

/-- Whether the path of an address without scheme and authority is sound: it must not look like one
of them. -/
def isPlainPath : List Char → Bool
  | '/' :: '/' :: _ => false
  | ':' :: _ => false
  | _ => true

/-- Whether an address is sound. -/
def isSound [Platform] (address : String) : Bool :=
  let cs := address.toList
  let (scheme, rest) := splitScheme cs
  let (authority, rest) := splitAuthority rest
  let (user, rest') := splitUser authority
  let (host, tail) := splitHost rest'
  let digits := match tail with
    | ':' :: ds => ds
    | ds => ds
  let number := hostNumber? digits
  let named := (usualNumbers.find? fun (s, _) => s == (String.ofList scheme).toLower).map Prod.snd
  let authorised := !user.isEmpty || !host.isEmpty || (!digits.isEmpty && number != named)
  cs.length ≤ limit && !cs.any isControl && isHost host && (digits.isEmpty || number.isSome) &&
    (!scheme.isEmpty || authorised || isPlainPath rest)

end RouteSchema.Http.Address
