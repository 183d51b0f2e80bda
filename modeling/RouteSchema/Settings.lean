import RouteSchema.Field
import RouteSchema.Json.Reader
import RouteSchema.Pattern
import RouteSchema.Run
import RouteSchema.Value.Mapping

/-!
# Settings

Settings come from the command line, from environment variables, from the project file in the
working directory, and from defaults, the former before the latter. An empty variable does not
count; an empty text on the command line does.

* `Settings.resolve` is what they come to.
-/

namespace RouteSchema

/-- The settings: the placeholder pattern, an address in the place of a schema's own, and how
requests are sent. -/
structure Settings where
  pattern : Pattern
  address : Option String
  transport : Transport

namespace Settings

/-- The name of the project file. -/
def projectName : String := "restez.json"

/-- The variable of the placeholder pattern. -/
def patternVariable : String := "RESTEZ_PARAMETER_PATTERN"

/-- The variable of the address. -/
def addressVariable : String := "RESTEZ_BASE_URL"

/-- The variable of the timeout. -/
def timeoutVariable : String := "RESTEZ_TIMEOUT"

/-- The object in the project file of a directory, if there is such a file. -/
def project? [Platform] (directory : FileName) : Eval (Option Dict) := do
  let f := directory.below (.ofString projectName)
  match ← Eval.text? f with
  | none => return none
  | some text =>
    match Json.readAt .settings text with
    | .ok (.dict entries) => return some entries
    | .ok _ => throw (.config (.projectNotObject f.toString))
    | .error fault =>
      throw ((fault.failure? text).getD
        (.config (.unreadableProject f.toString (fault.message text))))

/-- The value of a variable that is set and not empty. -/
def given? (name : String) : Eval (Option Value) := do
  match ← Eval.variableOf name with
  | some value => return if value == "" then none else some (.text value)
  | none => return none

/-- A mapping with a value under a key, if there is one. -/
def withMember (entries : Dict) (key : String) : Option Value → Dict
  | some v => Assoc.insert entries (.text key) v
  | none => entries

/-- The conversion of the value under a key; the default if there is none. -/
def member {α : Type} (entries : Dict) (key : String) (fallback : α)
    (convert : Value → Except String α) : Except String α :=
  match entries.getText? key with
  | some v => convert v
  | none => .ok fallback

/-- A text as a field. Half of a surrogate pair is in no text. -/
def textField [Platform] (v : Value) : Except String String := do
  let s ← Field.text v
  if Platform.isUnpaired s then .error "string_unicode" else return s

/-- An address as a field; it may be null. -/
def addressField [Platform] : Value → Except String (Option String)
  | .null => .ok none
  | v => (textField v).map some

/-- How requests are sent, from a mapping; otherwise the faults of its fields. -/
def transportOf (location : List String) (entries : Dict) : Except (List FieldFault) Transport :=
  let timeout := member entries "timeout" none fun v => (Field.number v).map some
  let verify := member entries "verify_ssl" true Field.truth
  let retries := member entries "max_retries" 3 Field.count
  match timeout, verify, retries with
  | .ok timeout, .ok verify, .ok retries => .ok { timeout, verify, retries }
  | _, _, _ => .error (Field.faults (location ++ ["timeout"]) timeout ++
      Field.faults (location ++ ["verify_ssl"]) verify ++
      Field.faults (location ++ ["max_retries"]) retries)

/-- The settings of a mapping and of the mapping for requests in it. -/
def ofEntries [Platform] (entries request : Dict) : Except Failure Settings :=
  let source := member entries "parameter_pattern" none fun v => (textField v).map some
  let address := member entries "base_url" none addressField
  let transport := transportOf ["request"] request
  match source, address, transport with
  | .ok source, .ok address, .ok transport => do
    let pattern ← Pattern.of (.source (source.getD Pattern.usualSource))
    return { pattern, address, transport }
  | _, _, _ =>
    let faults := match transport with
      | .ok _ => []
      | .error faults => faults
    .error (.config (.invalidSettings (Field.faults ["parameter_pattern"] source ++
      Field.faults ["base_url"] address ++ faults)))

/-- The settings, with what the command line says about pattern and address. -/
def resolve [Platform] (pattern address : Option String) : Eval Settings := do
  let entries := (← project? (← get).directory).getD []
  let request ← match entries.getText? "request" with
    | some v => if v.truthy then ExceptT.mk (pure v.mapping) else pure []
    | none => pure []
  let entries := withMember entries "parameter_pattern" (← given? patternVariable)
  let entries := withMember entries "base_url" (← given? addressVariable)
  let request := withMember request "timeout" (← given? timeoutVariable)
  let entries := withMember entries "parameter_pattern" (pattern.map .text)
  let entries := withMember entries "base_url" (address.map .text)
  ExceptT.mk (pure (ofEntries entries request))

end Settings

end RouteSchema
