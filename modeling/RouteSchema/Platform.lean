import RouteSchema.Value.Text

/-!
# The platform

What the program stands on, as far as it decides how a run ends: how deep the stack is, what the
standard output takes, which names and encodings there are besides those of this library, in which
order a set is enumerated, and how long a pause may be.

* `Platform` collects what there is.
* `Breakdown` lists the ways in which the platform fails the program.
-/

namespace RouteSchema

/-! ## What is shown -/

/-- What is handed to a styled terminal. -/
inductive Styled
  | text (markup : String)
  | code (json : String)
  | table (title : Option String) (columns : List String) (rows : List (List String))
  deriving DecidableEq, Repr

/-- One act of showing something. -/
inductive Shown
  | out (text : String)
  | err (text : String)
  | styledOut (s : Styled)
  | styledErr (s : Styled)
  deriving DecidableEq, Repr

/-! ## Failures -/

/-- How the platform fails the program. -/
inductive Breakdown
  /-- The stack does not suffice. -/
  | tooDeep
  /-- Markup is unsound. -/
  | badMarkup (detail : String)
  /-- A text has no bytes in the encoding of the output. -/
  | unencodable (detail : String)
  /-- An encoding makes no text of bytes. -/
  | notText (detail : String)
  /-- A document holds itself. No value here does, so that what becomes of it is left open. -/
  | cyclic
  deriving DecidableEq, Repr

/-- The wording of a breakdown. -/
def Breakdown.message : Breakdown → String
  | .tooDeep | .cyclic => "maximum recursion depth exceeded"
  | .badMarkup detail | .unencodable detail | .notText detail => detail

/-! ## Work that goes deep -/

/-- Where a JSON text comes from. How much of the stack is in use differs between these places. -/
inductive Place
  | document
  | settings
  | body
  | answer
  | report
  deriving DecidableEq, Repr

/-- A piece of work that goes as deep into the stack as its data nests. -/
inductive Work
  | readJson (place : Place) (text : String)
  | readYaml (text : String)
  | readPattern (source : String)
  | writeJson (v : Value)
  | display (v : Value)

/-! ## The platform -/

/-- What the program stands on. -/
class Platform where
  /-- Whether a piece of work needs more of the stack than there is. -/
  exhausts : Work → Bool
  /-- Why the standard output refuses what is shown, if it does. -/
  refuses : Shown → Option Breakdown
  /-- The encodings besides those of `Charset`, each with the text it makes of bytes. -/
  encoding? : String → Option (List UInt8 → Except Breakdown String)
  /-- The character with a name. -/
  characterNamed? : String → Option Char
  /-- Whether the replacement characters of a text stand for halves of surrogate pairs. -/
  isUnpaired : String → Bool
  /-- Whether a host with characters outside ASCII can be written in ASCII. -/
  encodesHost : List Char → Bool
  /-- The items of a set in the order in which they are enumerated. -/
  enumerated : List Value → List Value
  /-- Whether a pause may last so many seconds. -/
  canPause : Nat → Bool

end RouteSchema
