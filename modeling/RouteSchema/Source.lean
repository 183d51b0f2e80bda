import RouteSchema.Text.Blank
import RouteSchema.World

/-!
# Sources of values

A value may be looked up when it is needed: in an environment variable, with a fallback for a
variable that is not set, or in a file.

* `Source.read` looks the value up.
* `Source.ofEnvironment` reads the description of a source from a mapping.
-/

namespace RouteSchema

/-- Where a value is looked up. -/
inductive Source
  | setting (name : String) (fallback : Option Value)
  | file (path : String)

namespace Source

/-- The home directory of a user; that of the one who runs the program may be set by a variable. -/
def home? (user : String) : Eval (Option String) := do
  let known := (← get).homes user
  if user == "" then return (← Eval.variableOf "HOME") <|> known else return known

/-- A directory without slashes at its end. -/
def trimmed (dir : String) : String :=
  let cs := (dir.toList.reverse.dropWhile (· == '/')).reverse
  if cs.isEmpty then "/" else String.ofList cs

/-- A file name with a tilde at its front, and the name of a user behind it, replaced by the home
directory. -/
def expandHome (f : FileName) : Eval FileName := do
  match f.root, f.parts with
  | "", first :: rest =>
    match first.toList with
    | '~' :: user =>
      let dir ← home? (String.ofList user)
      match dir.map trimmed with
      | some dir =>
        if dir.startsWith "~" then throw (.raised "Could not determine home directory.")
        return (FileName.ofString dir).below ⟨"", rest⟩
      | none => throw (.raised "Could not determine home directory.")
    | _ => return f
  | _, _ => return f

/-- The value of a source at this moment. -/
def read : Source → Eval Value
  | .setting name fallback => do
    match ← Eval.variableOf name, fallback with
    | some value, _ => return .text value
    | none, some value => return value
    | none, none => throw (.config (.unsetVariable name))
  | .file path => do
    let f ← expandHome (.ofString path)
    match ← Eval.text? f with
    | some text => return .text (Text.strip text)
    | none => throw (.config (.sourceMissing f.toString))

/-- The value of a key that must be there. -/
def entry (environment : Dict) (key : String) : Except Failure Value :=
  match environment.getText? key with
  | some v => .ok v
  | none => .error (.missingKey (.text key))

/-- The name of a variable. -/
def variableName : Value → Except Failure String
  | .text s => .ok s
  | v => .error (.wrongType ("str expected, not " ++ v.typeName))

/-- The path of a file. -/
def filePath : Value → Except Failure String
  | .text s => .ok s
  | .bytes _ => .error (.wrongType
      "argument should be a str object or an os.PathLike object returning str, not <class 'bytes'>")
  | v => .error (.wrongType ("expected str, bytes or os.PathLike object, not " ++ v.typeName))

/-- The source that a mapping describes by its `kind`. -/
def ofEnvironment (environment : Dict) : Except Failure Source :=
  let kind := (environment.getText? "kind").getD .null
  if kind == .text "env" then do
    let name ← entry environment "name"
    return .setting (← variableName name) (environment.getText? "default")
  else if kind == .text "file" then do
    let path ← entry environment "path"
    return .file (← filePath path)
  else if kind.printable then .error (.config (.unknownSource kind))
  else .error (.wrongValue Value.tooManyDigits)

/-- The value of the source that a mapping describes. -/
def readEnvironment (environment : Dict) : Eval Value := do
  (← ExceptT.mk (pure (ofEnvironment environment))).read

end Source

end RouteSchema
