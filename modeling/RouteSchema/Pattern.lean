import RouteSchema.Failure
import RouteSchema.Regex.Reader
import RouteSchema.Regex.Search

/-!
# Placeholder patterns

A pattern says what a placeholder looks like: a regular expression with exactly one capturing
group, which holds the name.

* `Pattern.of` accepts a pattern as an application or a setting gives it.
* `Pattern.usual` is the pattern of names in braces.
-/

namespace RouteSchema

/-- A regular expression with one capturing group, and its source. -/
structure Pattern where
  source : String
  program : Regex.Program
  oneGroup : program.groups = 1

/-- How a pattern is given. -/
inductive PatternChoice
  /-- Names in braces. -/
  | usual
  /-- The source of a regular expression. -/
  | source (s : String)
  /-- A regular expression with its source. -/
  | compiled (s : String) (program : Regex.Program)
  deriving DecidableEq, Repr

namespace Pattern

/-- The source of the pattern of names in braces. -/
def usualSource : String := "\\\x7b([^\x7b\x7d]+)\\\x7d"

/-- The regular expression for names in braces. A name is not empty and holds no brace. -/
def usualTree : Regex :=
  .cat (.char (.code 123 false))
    (.cat (.group 1 (.rounds .greedy 1 none (.char (.oneOf [.code 123, .code 125] true))))
      (.char (.code 125 false)))

/-- The pattern of names in braces. -/
def usual : Pattern := ⟨usualSource, ⟨usualTree, {}, 1⟩, rfl⟩

/-- The failure that a fault of a regular expression becomes. -/
def failureOf (source : String) : Regex.Fault → Failure
  | .malformed => .config (.pattern (.unreadable source))
  | .tooManyRounds => .overflow "the repetition number is too large"
  | .tooManyDigits => .wrongValue Value.tooManyDigits
  | .conflictingFlags => .wrongValue "conflicting flags"

/-- The pattern of a regular expression and its source. -/
def ofProgram (source : String) (program : Regex.Program) : Except Failure Pattern :=
  if h : program.groups = 1 then .ok ⟨source, program, h⟩
  else .error (.config (.pattern (.groups source program.groups)))

/-- The pattern with a source. -/
def read [Platform] (source : String) : Except Failure Pattern :=
  if Platform.exhausts (.readPattern source) then .error (.broken .tooDeep)
  else
    match Regex.readNamed Platform.characterNamed? source {} with
    | .error fault => .error (failureOf source fault)
    | .ok program => ofProgram source program

/-- The pattern of a choice. -/
def of [Platform] : PatternChoice → Except Failure Pattern
  | .usual => .ok usual
  | .source s => read s
  | .compiled s program => ofProgram s program

/-- The usual pattern is what its source is read as, whatever characters have names. -/
theorem readNamed_usualSource (named? : String → Option Char) :
    Regex.readNamed named? usualSource {} = .ok usual.program := by
  have tokens : Regex.tokens usualSource.toList = .ok [.escaped '\x7b', .plain '(', .plain '[',
      .plain '^', .plain '\x7b', .plain '\x7d', .plain ']', .plain '+', .plain ')',
      .escaped '\x7d'] := rfl
  have opens (st : Regex.State) (ts : List Regex.Token) :
      Regex.escape st '\x7b' ts = .ok (.char (.code 123 false), st, ts) := rfl
  have closes (st : Regex.State) (ts : List Regex.Token) :
      Regex.escape st '\x7d' ts = .ok (.char (.code 125 false), st, ts) := rfl
  have name (ts : List Regex.Token) :
      Regex.charClass named? (.plain '^' :: .plain '\x7b' :: .plain '\x7d' :: .plain ']' :: ts) =
        .ok (.char (.oneOf [.code 123, .code 125] true), ts) := rfl
  simp [Regex.readNamed, tokens, Regex.alternatives, Regex.items, opens, name, closes,
    Regex.capture, Regex.State.beginGroup, Regex.addRounds, Regex.closing, Regex.State.closeGroup,
    Regex.sequence, bind, Except.bind, usual, usualTree]

theorem of_usualSource [Platform]
    (shallow : Platform.exhausts (.readPattern usualSource) = false) :
    of (.source usualSource) = .ok usual := by
  rw [of, read, shallow, readNamed_usualSource]
  rfl

end Pattern

end RouteSchema
