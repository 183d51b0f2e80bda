import RouteSchema.Attribute
import RouteSchema.Value.Mapping

/-!
# Expressions

A small language for the computed values of attributes. An expression is evaluated in an environment
of named values, and may look at environment variables, at files and at counters.
-/

namespace RouteSchema

namespace Value

/-- The failure of adding two values that have no sum. -/
def noSum (a b : Value) : Failure :=
  match a with
  | .text _ => .wrongType ("can only concatenate str (not \"" ++ b.typeName ++ "\") to str")
  | .list _ => .wrongType ("can only concatenate list (not \"" ++ b.typeName ++ "\") to list")
  | .tuple _ => .wrongType ("can only concatenate tuple (not \"" ++ b.typeName ++ "\") to tuple")
  | .bytes _ => .wrongType ("can't concat " ++ b.typeName ++ " to bytes")
  | _ => .wrongType ("unsupported operand type(s) for +: '" ++ a.typeName ++ "' and '" ++
      b.typeName ++ "'")

/-- An integer as the nearest number. -/
def nearest (i : Int) : Except Failure Binary64 :=
  let x := Binary64.ofInt i
  match x with
  | .infinite _ => .error (.overflow "int too large to convert to float")
  | _ => .ok x

/-- The sum of two numbers or the concatenation of two texts or sequences. -/
def plus (a b : Value) : Except Failure Value :=
  match a.number?, b.number? with
  | some (.inl i), some (.inl j) => .ok (.int (i + j))
  | some (.inl i), some (.inr y) => return .float ((← nearest i).add y)
  | some (.inr x), some (.inl j) => return .float (x.add (← nearest j))
  | some (.inr x), some (.inr y) => .ok (.float (x.add y))
  | _, _ =>
    match a, b with
    | .text s, .text t => .ok (.text (s ++ t))
    | .bytes s, .bytes t => .ok (.bytes (s ++ t))
    | .list xs, .list ys => .ok (.list (xs ++ ys))
    | .tuple xs, .tuple ys => .ok (.tuple (xs ++ ys))
    | _, _ => .error (noSum a b)

/-- The texts among the parts, with the position of the first part that is none. -/
def texts : Nat → List Value → Except Failure (List String)
  | _, [] => .ok []
  | i, .text s :: xs => return s :: (← texts (i + 1) xs)
  | i, x :: _ =>
    .error (.wrongType ("sequence item " ++ toString i ++ ": expected str instance, " ++
      x.typeName ++ " found"))

/-- The parts of a value, all of them texts, with slashes between them. -/
def pathText (v : Value) : Except Failure Value :=
  match v.parts? with
  | none => .error (.wrongType "can only join an iterable")
  | some xs => return .text (joined "/" (← texts 0 xs))

end Value

/-- An expression. -/
inductive Expression
  /-- A value. -/
  | const (value : Value)
  /-- The value of a name. -/
  | name (key : String)
  /-- The names in the scope, with slashes between them. -/
  | scopePath
  /-- The environment as a dictionary. -/
  | all
  /-- The sum of the values of two names. -/
  | sum (left right : String)
  /-- The value of an environment variable. -/
  | setting (key : String)
  /-- The next number of a counter. -/
  | count (counter : Nat)
  /-- The value of the source that the environment describes. -/
  | source
  /-- A failure. -/
  | failing (message : String)

namespace Expression

/-- The value of an expression in an environment. -/
def eval : Expression → Dict → Eval Value
  | .const v, _ => return v
  | .name key, env => ExceptT.mk (pure (Source.entry env key))
  | .scopePath, env =>
    ExceptT.mk (pure do (← Source.entry env "scope").pathText)
  | .all, env => return .dict env
  | .sum left right, env =>
    ExceptT.mk (pure do
      let a ← Source.entry env left
      a.plus (← Source.entry env right))
  | .setting key, _ => do
    match ← Eval.variableOf key with
    | some value => return .text value
    | none => throw (.missingKey (.text key))
  | .count counter, _ => return .int (← Eval.draw counter)
  | .source, env => Source.readEnvironment (Assoc.erase env (.text "scope"))
  | .failing message, _ => throw (.raised message)

end Expression

end RouteSchema
