import RouteSchema.Text.Printable

/-!
# Quoted texts

A text between quotes as diagnostics show it. Single quotes stand around it, double quotes if it
holds a single but no double one. The quote, the backslash and everything that does not print are
escaped.
-/

namespace RouteSchema.Text

/-- The least `width` hexadecimal digits of `n`, in small letters. -/
def hexDigits (width n : Nat) : String :=
  let ds := Nat.toDigits 16 n
  String.ofList (List.replicate (width - ds.length) '0' ++ ds)

/-- The escape of a code point: two, four or eight hexadecimal digits. -/
def escapeCode (n : Nat) : String :=
  if n < 0x100 then "\\x" ++ hexDigits 2 n
  else if n < 0x10000 then "\\u" ++ hexDigits 4 n
  else "\\U" ++ hexDigits 8 n

/-- A character inside quotes. -/
def quotedChar (quote c : Char) : String :=
  if c == quote || c == '\\' then String.ofList ['\\', c]
  else if c == '\n' then "\\n"
  else if c == '\r' then "\\r"
  else if c == '\t' then "\\t"
  else if isPrintable c then String.singleton c
  else escapeCode c.toNat

/-- The quote that stands around a text. -/
def quoteFor (s : String) : Char :=
  if s.toList.contains '\x27' && !s.toList.contains '"' then '"' else '\x27'

/-- A text between quotes. -/
def quoted (s : String) : String :=
  let quote := quoteFor s
  String.singleton quote ++ String.join (s.toList.map (quotedChar quote)) ++
    String.singleton quote

/-- Bytes between quotes, after a letter that tells them from a text. -/
def quotedBytes (bs : List UInt8) : String :=
  let quote := quoteFor (String.ofList (bs.map fun b => Char.ofNat b.toNat))
  let item (b : UInt8) : String :=
    let c := Char.ofNat b.toNat
    if b < 0x20 || b ≥ 0x7f then
      (if c == '\n' then "\\n" else if c == '\r' then "\\r" else if c == '\t' then "\\t"
        else "\\x" ++ hexDigits 2 b.toNat)
    else quotedChar quote c
  "b" ++ String.singleton quote ++ String.join (bs.map item) ++ String.singleton quote

end RouteSchema.Text
