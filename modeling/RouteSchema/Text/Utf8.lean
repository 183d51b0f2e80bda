/-!
# UTF-8

Decoding of bytes. Where the bytes are not UTF-8, the fault covers the longest beginning of a
sequence that could still have become a character, and says what is wrong with what follows it.

* `Utf8.decode` stops at the first fault.
* `Utf8.decodeLossy` puts the replacement character in the place of each fault.
* `Utf8.encode` is the inverse on all texts.
-/

namespace RouteSchema.Utf8

/-- What makes bytes no UTF-8. -/
inductive Reason
  | invalidStart
  | invalidContinuation
  | unexpectedEnd
  deriving DecidableEq, Repr

/-- A fault at `start`, `length` bytes long, the first of which is `first`. -/
structure Fault where
  reason : Reason
  start : Nat
  length : Nat
  first : UInt8
  deriving DecidableEq, Repr

/-- A byte that continues a sequence. -/
def isContinuation (b : UInt8) : Bool := b &&& 0xc0 == 0x80

/-- The bits of a continuation byte. -/
def continuationBits (b : UInt8) : Nat := (b &&& 0x3f).toNat

/-- A second byte that may follow `lead` in a sequence of three or four bytes: no overlong form, no
surrogate, nothing beyond the last code point. -/
def allowsSecond (lead second : UInt8) : Bool :=
  isContinuation second &&
    !(lead == 0xe0 && second < 0xa0) && !(lead == 0xed && second ≥ 0xa0) &&
    !(lead == 0xf0 && second < 0x90) && !(lead == 0xf4 && second ≥ 0x90)

/-- The first character of a non-empty list of bytes and the number of bytes it takes, or the
reason why there is none and the number of bytes at fault. -/
def next (lead : UInt8) (rest : List UInt8) : Except (Reason × Nat) (Char × Nat) :=
  if lead < 0x80 then .ok (Char.ofNat lead.toNat, 1)
  else if lead < 0xc2 || lead ≥ 0xf5 then .error (.invalidStart, 1)
  else if lead < 0xe0 then
    match rest with
    | [] => .error (.unexpectedEnd, 1)
    | b :: _ =>
      if isContinuation b then
        .ok (Char.ofNat ((lead &&& 0x1f).toNat * 64 + continuationBits b), 2)
      else .error (.invalidContinuation, 1)
  else if lead < 0xf0 then
    match rest with
    | [] => .error (.unexpectedEnd, 1)
    | [b] => if allowsSecond lead b then .error (.unexpectedEnd, 2)
      else .error (.invalidContinuation, 1)
    | b :: c :: _ =>
      if !allowsSecond lead b then .error (.invalidContinuation, 1)
      else if !isContinuation c then .error (.invalidContinuation, 2)
      else .ok (Char.ofNat
        ((lead &&& 0x0f).toNat * 4096 + continuationBits b * 64 + continuationBits c), 3)
  else
    match rest with
    | [] => .error (.unexpectedEnd, 1)
    | [b] => if allowsSecond lead b then .error (.unexpectedEnd, 2)
      else .error (.invalidContinuation, 1)
    | [b, c] =>
      if !allowsSecond lead b then .error (.invalidContinuation, 1)
      else if isContinuation c then .error (.unexpectedEnd, 3)
      else .error (.invalidContinuation, 2)
    | b :: c :: d :: _ =>
      if !allowsSecond lead b then .error (.invalidContinuation, 1)
      else if !isContinuation c then .error (.invalidContinuation, 2)
      else if !isContinuation d then .error (.invalidContinuation, 3)
      else .ok (Char.ofNat ((lead &&& 0x07).toNat * 262144 + continuationBits b * 4096 +
        continuationBits c * 64 + continuationBits d), 4)

/-- Decodes from a position on; `repair` says whether faults are replaced or reported. -/
def decodeFrom (repair : Bool) : Nat → Nat → List UInt8 → List Char → Except Fault (List Char)
  | 0, _, _, acc => .ok acc.reverse
  | _, _, [], acc => .ok acc.reverse
  | fuel + 1, pos, lead :: rest, acc =>
    match next lead rest with
    | .ok (c, n) => decodeFrom repair fuel (pos + n) (rest.drop (n - 1)) (c :: acc)
    | .error (reason, n) =>
      if repair then
        decodeFrom repair fuel (pos + n) (rest.drop (n - 1)) (Char.ofNat 0xfffd :: acc)
      else .error ⟨reason, pos, n, lead⟩

/-- The text that the bytes encode. -/
def decode (bytes : List UInt8) : Except Fault String :=
  (decodeFrom false bytes.length 0 bytes []).map String.ofList

/-- The text that the bytes encode, with the replacement character for each fault. -/
def decodeLossy (bytes : List UInt8) : String :=
  match decodeFrom true bytes.length 0 bytes [] with
  | .ok cs => String.ofList cs
  | .error _ => ""

/-- The bytes of a text. -/
def encode (s : String) : List UInt8 := s.toUTF8.toList

/-- The wording of a reason. -/
def Reason.message : Reason → String
  | .invalidStart => "invalid start byte"
  | .invalidContinuation => "invalid continuation byte"
  | .unexpectedEnd => "unexpected end of data"

/-- Two hexadecimal digits. -/
def hexByte (b : UInt8) : String :=
  let ds := Nat.toDigits 16 b.toNat
  String.ofList (if ds.length < 2 then '0' :: ds else ds)

/-- The wording of a fault. -/
def Fault.message (f : Fault) : String :=
  (if f.length ≤ 1 then
    "'utf-8' codec can't decode byte 0x" ++ hexByte f.first ++ " in position " ++
      toString f.start
  else
    "'utf-8' codec can't decode bytes in position " ++ toString f.start ++ "-" ++
      toString (f.start + f.length - 1)) ++ ": " ++ f.reason.message

end RouteSchema.Utf8
