/-!
# Options on a command line

Splitting the arguments of a command into options and the rest. A long option may carry its value
behind an equals sign; a short one may stand in a cluster with others and carry its value behind it.

* `Options.split` splits arguments, or refuses them.
-/

namespace RouteSchema.Cli

/-- An option: its name, its long form, its letter, and whether it takes a value. -/
structure OptionSpec where
  name : String
  long : String
  letter : Option Char
  takesValue : Bool
  deriving DecidableEq, Repr

namespace Options

/-- What arguments split into: the options in order with their values, and the rest. A flag has the
empty value. -/
structure Split where
  given : List (String × String) := []
  rest : List String := []
  deriving DecidableEq, Repr

namespace Split

/-- Whether an option is given. -/
def has (s : Split) (name : String) : Bool := s.given.any fun (n, _) => n == name

/-- The values of an option in order. -/
def values (s : Split) (name : String) : List String :=
  (s.given.filter fun (n, _) => n == name).map Prod.snd

/-- The last value of an option. -/
def value? (s : Split) (name : String) : Option String := (s.values name).getLast?

end Split

/-- A cluster of letters: the options in it with their values, and the option at its end whose value
is yet to come. -/
def cluster (specs : List OptionSpec) : List Char → Option (List (String × String) × Option String)
  | [] => some ([], none)
  | c :: cs =>
    match specs.find? (·.letter == some c) with
    | none => none
    | some o =>
      if o.takesValue then
        if cs.isEmpty then some ([], some o.name) else some ([(o.name, String.ofList cs)], none)
      else (cluster specs cs).map fun (given, waiting) => ((o.name, "") :: given, waiting)

/-- The long form in an argument, and the value behind an equals sign. -/
def longForm (arg : String) : String × Option String :=
  let name := arg.toList.takeWhile (· != '=')
  match arg.toList.drop name.length with
  | [] => (arg, none)
  | _ :: value => (String.ofList name, some (String.ofList value))

/-- What an argument that looks like an option says: options with their values, and the option whose
value is the next argument. -/
def read (specs : List OptionSpec) (arg : String) :
    Option (List (String × String) × Option String) :=
  let (form, value) := longForm arg
  match specs.find? (·.long == form), value with
  | some o, some v => if o.takesValue then some ([(o.name, v)], none) else none
  | some o, none => if o.takesValue then some ([], some o.name) else some ([(o.name, "")], none)
  | none, _ => if arg.startsWith "--" then none else cluster specs (arg.toList.drop 1)

/-- Whether an argument looks like an option: a hyphen with something behind it. -/
def looksLikeOption (arg : String) : Bool := arg.startsWith "-" && arg != "-"

/-- Splits arguments. Two hyphens end the options. Where options may not stand behind other
arguments, the first of those ends them too. -/
def split (specs : List OptionSpec) (mixed : Bool) : List String → Option Split
  | [] => some {}
  | arg :: args =>
    if arg == "--" then some { rest := args }
    else if looksLikeOption arg then
      match read specs arg, args with
      | none, _ => none
      | some (given, none), args =>
        (split specs mixed args).map fun s => { s with given := given ++ s.given }
      | some (_, some _), [] => none
      | some (given, some name), value :: args =>
        (split specs mixed args).map fun s => { s with given := given ++ (name, value) :: s.given }
    else if mixed then (split specs mixed args).map fun s => { s with rest := arg :: s.rest }
    else some { rest := arg :: args }

end Options

end RouteSchema.Cli
