/-!
# Base 64

Decoding of bytes written with sixty-four characters. Characters outside the alphabet are skipped,
and nothing is read behind the padding that completes a group.
-/

namespace RouteSchema.Base64

/-- The value of a character of the alphabet. -/
def value? (c : Char) : Option Nat :=
  if 'A' ≤ c && c ≤ 'Z' then some (c.toNat - 65)
  else if 'a' ≤ c && c ≤ 'z' then some (c.toNat - 71)
  else if '0' ≤ c && c ≤ '9' then some (c.toNat + 4)
  else if c == '+' then some 62
  else if c == '/' then some 63
  else none

/-- Decodes from inside a group: `place` characters of it are read, `left` holds the bits that are
no byte yet, and `pads` is the number of paddings read since the last character. -/
def decodeFrom (place left pads : Nat) : List Char → List UInt8 → Option (List UInt8)
  | [], acc => if place == 0 then some acc.reverse else none
  | c :: cs, acc =>
    if c == '=' then
      if place ≥ 2 && place + pads + 1 ≥ 4 then some acc.reverse
      else decodeFrom place left (if place ≥ 2 then pads + 1 else pads) cs acc
    else
      match value? c with
      | none => decodeFrom place left pads cs acc
      | some v =>
        match place with
        | 0 => decodeFrom 1 v 0 cs acc
        | 1 => decodeFrom 2 (v % 16) 0 cs (UInt8.ofNat (left * 4 + v / 16) :: acc)
        | 2 => decodeFrom 3 (v % 4) 0 cs (UInt8.ofNat (left * 16 + v / 4) :: acc)
        | _ => decodeFrom 0 0 0 cs (UInt8.ofNat (left * 64 + v) :: acc)

/-- The bytes of a text, if its groups are complete. -/
def decode? (cs : List Char) : Option (List UInt8) := decodeFrom 0 0 0 cs []

end RouteSchema.Base64
