import RouteSchema.Text.Utf8

/-!
# Character sets

Decoding of bytes by the name of a character set, as a media type gives it, and detection of the
Unicode encoding of a JSON text from its first bytes.
-/

namespace RouteSchema

/-- An encoding of texts. -/
inductive Charset
  | utf8
  /-- UTF-8 whose first character is dropped if it is a byte order mark. -/
  | utf8Marked
  | utf16 (bigEndian : Bool)
  /-- UTF-16 whose byte order a mark gives; little-endian without one. -/
  | utf16Marked
  | utf32 (bigEndian : Bool)
  /-- UTF-32 whose byte order a mark gives; little-endian without one. -/
  | utf32Marked
  | ascii
  | latin1
  | latin9
  | windows1252
  deriving DecidableEq, Repr

namespace Charset

/-- A name with small letters, and hyphens and spaces as underscores. -/
def normalName (s : String) : String :=
  String.ofList (s.toList.map fun c => if c == '-' || c == ' ' then '_' else c.toLower)

/-- The character set of a name. -/
def ofName? (s : String) : Option Charset :=
  let n := normalName s
  let among (names : List String) : Bool := names.contains n
  if among ["utf_8", "utf8", "u8", "utf", "cp65001", "utf8_ucs2", "utf8_ucs4"] then some .utf8
  else if among ["utf_8_sig", "utf8_sig"] then some .utf8Marked
  else if among ["utf_16", "utf16", "u16"] then some .utf16Marked
  else if among ["utf_16le", "utf_16_le", "utf16le", "unicodelittleunmarked"] then
    some (.utf16 false)
  else if among ["utf_16be", "utf_16_be", "utf16be", "unicodebigunmarked"] then some (.utf16 true)
  else if among ["utf_32", "utf32", "u32"] then some .utf32Marked
  else if among ["utf_32le", "utf_32_le", "utf32le"] then some (.utf32 false)
  else if among ["utf_32be", "utf_32_be", "utf32be"] then some (.utf32 true)
  else if among ["ascii", "us_ascii", "us", "646", "ansi_x3.4_1968", "iso646_us", "cp367", "ibm367"]
  then some .ascii
  else if among ["latin_1", "latin1", "latin", "l1", "iso_8859_1", "iso8859_1", "iso8859",
      "8859", "cp819", "ibm819"] then some .latin1
  else if among ["iso_8859_15", "iso8859_15", "latin_9", "l9"] then some .latin9
  else if among ["cp1252", "windows_1252", "1252"] then some .windows1252
  else none

/-- The code points of the bytes from 0x80 to 0x9f in the Windows set. -/
def windowsUpper : List Nat := [
  0x20ac, 0xfffd, 0x201a, 0x192, 0x201e, 0x2026, 0x2020, 0x2021, 0x2c6, 0x2030, 0x160, 0x2039,
  0x152, 0xfffd, 0x17d, 0xfffd, 0xfffd, 0x2018, 0x2019, 0x201c, 0x201d, 0x2022, 0x2013, 0x2014,
  0x2dc, 0x2122, 0x161, 0x203a, 0x153, 0xfffd, 0x17e, 0x178]

/-- The bytes of the ninth Latin set that differ from the first. -/
def latin9Changes : List (UInt8 × Nat) := [
  (0xa4, 0x20ac), (0xa6, 0x160), (0xa8, 0x161), (0xb4, 0x17d), (0xb8, 0x17e), (0xbc, 0x152),
  (0xbd, 0x153), (0xbe, 0x178)]

/-- The character put in the place of what cannot be decoded. -/
def replacement : Char := Char.ofNat 0xfffd

/-- Code units of `width` bytes. Left-over bytes are reported by the flag. -/
def units (width : Nat) (bigEndian : Bool) : Nat → List UInt8 → List Nat × Bool
  | 0, _ => ([], false)
  | _, [] => ([], false)
  | fuel + 1, bs =>
    if bs.length < width then ([], true)
    else
      let u := bs.take width
      let n := (if bigEndian then u else u.reverse).foldl (fun n b => n * 256 + b.toNat) 0
      let (us, rest) := units width bigEndian fuel (bs.drop width)
      (n :: us, rest)

/-- A code point as a character. -/
def codePoint? (n : Nat) : Option Char := if n.isValidChar then some (Char.ofNat n) else none

/-- The text of UTF-16 code units; `none` stands for a unit that is no part of a character. -/
def joinSurrogates : List Nat → List (Option Char)
  | [] => []
  | [u] => [codePoint? u]
  | u :: v :: rest =>
    if 0xd800 ≤ u && u < 0xdc00 && 0xdc00 ≤ v && v < 0xe000 then
      codePoint? (0x10000 + (u - 0xd800) * 1024 + (v - 0xdc00)) :: joinSurrogates rest
    else codePoint? u :: joinSurrogates (v :: rest)

/-- The characters of units of two or four bytes; `none` stands for what cannot be decoded. -/
def wide (width : Nat) (bigEndian : Bool) (bs : List UInt8) : List (Option Char) :=
  let (us, leftOver) := units width bigEndian bs.length bs
  (if width == 2 then joinSurrogates us else us.map codePoint?) ++
    (if leftOver then [none] else [])

/-- Decodes bytes; `none` stands for what cannot be decoded. -/
def characters (bs : List UInt8) : Charset → List (Option Char)
  | .utf16 big => wide 2 big bs
  | .utf32 big => wide 4 big bs
  | .utf16Marked =>
    match bs with
    | 0xff :: 0xfe :: rest => wide 2 false rest
    | 0xfe :: 0xff :: rest => wide 2 true rest
    | _ => wide 2 false bs
  | .utf32Marked =>
    match bs with
    | 0xff :: 0xfe :: 0 :: 0 :: rest => wide 4 false rest
    | 0 :: 0 :: 0xfe :: 0xff :: rest => wide 4 true rest
    | _ => wide 4 false bs
  | .ascii => bs.map fun b => if b < 0x80 then some (Char.ofNat b.toNat) else none
  | .latin1 => bs.map fun b => some (Char.ofNat b.toNat)
  | .latin9 => bs.map fun b =>
    some (Char.ofNat (((latin9Changes.find? fun (a, _) => a == b).map Prod.snd).getD b.toNat))
  | .windows1252 => bs.map fun b =>
    if 0x80 ≤ b && b < 0xa0 then
      let n := windowsUpper.getD (b.toNat - 0x80) 0xfffd
      if n == 0xfffd then none else some (Char.ofNat n)
    else some (Char.ofNat b.toNat)
  | .utf8 | .utf8Marked => (Utf8.decodeLossy bs).toList.map some

/-- A text without a byte order mark at its start. -/
def dropMark (s : String) : String :=
  match s.toList with
  | c :: rest => if c.toNat == 0xfeff then String.ofList rest else s
  | [] => s

/-- The text of bytes in a character set, with the replacement character for what cannot be
decoded. -/
def decodeLossy (bs : List UInt8) : Charset → String
  | .utf8 => Utf8.decodeLossy bs
  | .utf8Marked => dropMark (Utf8.decodeLossy bs)
  | charset => String.ofList ((characters bs charset).map (·.getD replacement))

/-- The text of bytes in a Unicode encoding, if all of them can be decoded. -/
def decode? (bs : List UInt8) : Charset → Option String
  | .utf8 => (Utf8.decode bs).toOption
  | .utf8Marked => ((Utf8.decode bs).toOption).map dropMark
  | charset => ((characters bs charset).mapM id).map String.ofList

/-- The encoding of a JSON text: by its byte order mark, else by the zeros among its first four
bytes. -/
def ofJson (bs : List UInt8) : Charset :=
  match bs with
  | 0 :: 0 :: 0xfe :: 0xff :: _ => .utf32Marked
  | 0xff :: 0xfe :: 0 :: 0 :: _ => .utf32Marked
  | 0xfe :: 0xff :: _ => .utf16Marked
  | 0xff :: 0xfe :: _ => .utf16Marked
  | 0xef :: 0xbb :: 0xbf :: _ => .utf8Marked
  | a :: b :: c :: d :: _ =>
    if a == 0 then (if b == 0 then .utf32 true else .utf16 true)
    else if b == 0 then (if c != 0 || d != 0 then .utf16 false else .utf32 false)
    else .utf8
  | [a, b] =>
    if a == 0 then .utf16 true else if b == 0 then .utf16 false else .utf8
  | _ => .utf8

end Charset

end RouteSchema
