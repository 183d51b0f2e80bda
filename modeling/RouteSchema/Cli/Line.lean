import RouteSchema.Cli.Options
import RouteSchema.Text.Word

/-!
# The command line

What a command line asks for: a command with its arguments under the options that all commands
share, or the version, or help.

* `Line.read` reads a command line.
-/

namespace RouteSchema.Cli

/-- The options that all commands share. -/
structure Shared where
  json : Bool
  plain : Bool
  noColour : Bool
  quiet : Bool
  verbose : Bool
  dryRun : Bool
  address : Option String
  pattern : Option String
  deriving DecidableEq, Repr

/-- A command. -/
inductive Command
  /-- Lists the endpoints of a schema. -/
  | endpoints (source : String)
  /-- Shows one endpoint with its values. -/
  | inspect (source id : String)
  /-- Calls an endpoint. -/
  | call (source id : String) (params headers : List String) (body : Option String)
  deriving DecidableEq, Repr

/-- What a command line asks for. -/
inductive Line
  | version
  | help
  /-- Help is shown because nothing is asked for. -/
  | nothing
  | misuse
  | command (shared : Shared) (c : Command)
  deriving DecidableEq, Repr

namespace Line

/-- The option that asks for help. -/
def helpOption : OptionSpec := ⟨"help", "--help", none, false⟩

/-- The options that all commands share. -/
def sharedOptions : List OptionSpec := [
  ⟨"version", "--version", none, false⟩,
  ⟨"json", "--json", none, false⟩,
  ⟨"plain", "--plain", none, false⟩,
  ⟨"no-color", "--no-color", none, false⟩,
  ⟨"quiet", "--quiet", some 'q', false⟩,
  ⟨"verbose", "--verbose", some 'v', false⟩,
  ⟨"dry-run", "--dry-run", some 'n', false⟩,
  ⟨"base-url", "--base-url", none, true⟩,
  ⟨"pattern", "--pattern", none, true⟩,
  helpOption]

/-- The options of a call. -/
def callOptions : List OptionSpec := [
  ⟨"param", "--param", some 'p', true⟩,
  ⟨"header", "--header", some 'H', true⟩,
  ⟨"body", "--body", some 'd', true⟩,
  helpOption]

/-- The shared options that are given. -/
def shared (s : Options.Split) : Shared where
  json := s.has "json"
  plain := s.has "plain"
  noColour := s.has "no-color"
  quiet := s.has "quiet"
  verbose := s.has "verbose"
  dryRun := s.has "dry-run"
  address := s.value? "base-url"
  pattern := s.value? "pattern"

/-- Reads the arguments of a command. Help comes before a wrong number of arguments. -/
def arguments (options : List OptionSpec) (args : List String) (under : Shared)
    (make : Options.Split → Option Command) : Line :=
  match Options.split options true args with
  | none => .misuse
  | some s =>
    if s.has "help" then .help
    else
      match make s with
      | some c => .command under c
      | none => .misuse

/-- Whether a word looks like the form of an option: it begins with a sign. -/
def looksLikeForm (word : String) : Bool :=
  match word.toList with
  | [] => false
  | c :: _ => c == '_' || !Text.isWordChar c

/-- Reads a command and its arguments. -/
def readCommand (under : Shared) (word : String) (args : List String) : Line :=
  if word == "endpoints" then
    arguments [helpOption] args under fun s =>
      match s.rest with
      | [source] => some (.endpoints source)
      | _ => none
  else if word == "show" then
    arguments [helpOption] args under fun s =>
      match s.rest with
      | [source, id] => some (.inspect source id)
      | _ => none
  else if word == "call" then
    arguments callOptions args under fun s =>
      match s.rest with
      | [source, id] =>
        some (.call source id (s.values "param") (s.values "header") (s.value? "body"))
      | _ => none
  else if looksLikeForm word then .nothing
  else .misuse

/-- Reads a command line. The version and help, whichever is asked for first, come before all
else. -/
def read (args : List String) : Line :=
  if args.isEmpty then .nothing
  else
    match Options.split sharedOptions false args with
    | none => .misuse
    | some s =>
      match (s.given.map Prod.fst).find? fun name => name == "version" || name == "help" with
      | some "version" => .version
      | some _ => .help
      | none =>
        match s.rest with
        | [] => .misuse
        | word :: args => readCommand (shared s) word args

end Line

end RouteSchema.Cli
