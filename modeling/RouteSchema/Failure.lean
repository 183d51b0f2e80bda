import RouteSchema.Http.Response
import RouteSchema.Json.Writer
import RouteSchema.Text.Quoted

/-!
# Failures

Every way in which an operation can fail, as causes. The failures of the library itself have a
wording and an exit code; besides them there are the failures of values, texts, files and the
network that an operation passes on.

* `Failure.message` words a failure.
* `Failure.exitCode` gives the exit code of a command that ends with it.
* `Value.asText` is the text of a value, or the failure to write it.
-/

namespace RouteSchema

/-! ## Exit codes -/

namespace ExitCode

/-- Success. -/
def success : Int := 0

/-- A failure without a code of its own. -/
def general : Int := 1

/-- A call was rejected by parameter validation or address interpolation. -/
def usage : Int := 2

/-- The server rejected the credentials. -/
def authentication : Int := 3

/-- The server does not know the resource. -/
def notFound : Int := 4

/-- The server failed. -/
def server : Int := 5

/-- The network failed. -/
def connection : Int := 6

/-- The schema cannot be loaded or is malformed. -/
def schema : Int := 7

/-- An attribute value cannot be computed. -/
def resolution : Int := 8

/-- The exit code for the status of a failed response; no status means that there was none. -/
def ofStatus : Option Int → Int
  | none => connection
  | some s =>
    if s = 401 ∨ s = 403 then authentication
    else if s = 404 then notFound
    else if s ≥ 500 then server
    else general

end ExitCode

/-! ## Causes -/

/-- A field with a value that does not fit, and the kind of misfit. -/
structure FieldFault where
  location : List String
  kind : String
  deriving DecidableEq, Repr

/-- Why a placeholder pattern is refused. -/
inductive PatternFault
  /-- It is no regular expression. -/
  | unreadable (source : String)
  /-- It has a number of capturing groups other than one. -/
  | groups (source : String) (found : Nat)
  deriving DecidableEq, Repr

/-- Why settings or a source of values are refused. -/
inductive ConfigFault
  | pattern (fault : PatternFault)
  | unreadableProject (file detail : String)
  | projectNotObject (file : String)
  | invalidSettings (faults : List FieldFault)
  | unsetVariable (name : String)
  | sourceMissing (file : String)
  | unknownSource (kind : Value)
  | noDispatcher

/-- Why a schema is malformed. -/
inductive AuthoringFault
  | documentNotMapping
  | unknownKeys (location : String) (keys allowed : List String)
  | noRoot
  | nodeNotMapping (location : String)
  | attributesNotMapping (location : String)
  | routesNotMapping (location : String)
  | endpointNotText (location : String)
  | methodOfRoute (location : String)
  | emptyFile (key location : String)
  | invalidNode (location : String) (faults : List FieldFault)
  | invalidEndpoint (id : String) (faults : List FieldFault)
  | reservedKey (key : String)
  | emptyId (place : String)
  | notIdentifier (id place : String)
  | underscoredId (id place : String)
  | duplicateId (id first second : String)
  | repeatedId (id : String)
  | takenSegment (segment parent : String)
  | openRoute (scope : List String)
  deriving DecidableEq, Repr

/-- Why a schema document cannot be loaded. -/
inductive LoadFault
  | inputFailed (detail : String)
  | inputEmpty
  | status (code : Int) (address : String)
  | unreachable (address detail : String)
  | fileMissing (file : String)
  | fileEmpty (file : String)
  | badJson (detail : String)
  | badYaml
  | noModule (name detail : String)
  | noMember (name member : String)
  | notSchema (reference typeName : String)
  deriving DecidableEq, Repr

/-- Why a parameter of a call is rejected. -/
inductive Rejection
  | required
  | refused
  | other (reason : String)
  deriving DecidableEq, Repr

/-- The families of failures an application may raise with a wording and a code of its own. -/
inductive Family
  | general
  | config
  | authoring
  | load
  deriving DecidableEq, Repr

/-- A failure. -/
inductive Failure
  | config (fault : ConfigFault)
  | authoring (fault : AuthoringFault)
  | load (fault : LoadFault)
  /-- An attribute of an endpoint cannot be computed. -/
  | resolution (endpoint key : String) (cause : Failure)
  /-- A call is rejected because of a parameter. -/
  | rejected (endpoint : String) (key : Value) (reason : Rejection)
  /-- A placeholder has no value. -/
  | unfilled (template : String) (name : Option String)
  /-- A request failed, with the status and the response if there was one. -/
  | dispatch (message : String) (status : Option Int) (response : Option Http.Response)
  /-- The command line is at fault. -/
  | usage (message : String)
  /-- A failure with a wording and a code chosen by the application. -/
  | custom (family : Family) (message : String) (code : Option Int)
  /-- Fields of a structure do not fit. -/
  | invalid (faults : List FieldFault)
  | missingKey (key : Value)
  | missingMember (detail : String)
  | raised (detail : String)
  | network (fault : Http.NetworkFault) (detail : String)
  | badAddress (detail : String)
  | wrongType (detail : String)
  | wrongValue (detail : String)
  | undecodable (fault : Utf8.Fault)
  | overflow (detail : String)
  | badIndex (detail : String)
  | system (detail : String)
  /-- The platform fails. -/
  | broken (breakdown : Breakdown)

/-! ## Wordings -/

/-- The wording of a fault of a pattern. -/
def PatternFault.message : PatternFault → String
  | .unreadable source => "Invalid parameter pattern " ++ Text.quoted source ++ ": "
  | .groups source found =>
    "Parameter pattern " ++ Text.quoted source ++ " must have exactly one capture group (found " ++
      toString found ++ ")"

/-- The wording of a fault of settings. -/
def ConfigFault.message : ConfigFault → String
  | .pattern fault => fault.message
  | .unreadableProject file detail => "Invalid project config at " ++ file ++ ": " ++ detail
  | .projectNotObject file => "Invalid project config at " ++ file ++ ": expected a JSON object"
  | .invalidSettings _ => "Invalid settings: "
  | .unsetVariable name => "Environment variable '" ++ name ++ "' is not set"
  | .sourceMissing file => "Source file not found: " ++ file
  | .unknownSource kind => "Unknown source kind: " ++ kind.literal
  | .noDispatcher => "A dispatcher or a dispatch function is required"

/-- The keys that every call adds to the attributes of an endpoint. -/
def reservedKeys : List String := ["method", "path_template"]

/-- The wording of a fault of a schema. -/
def AuthoringFault.message : AuthoringFault → String
  | .documentNotMapping => "Schema document must be a mapping"
  | .unknownKeys location keys allowed =>
    "Unknown key(s) at " ++ location ++ ": " ++ Value.joined ", " keys ++ " (allowed: " ++
      Value.joined ", " allowed ++ ")"
  | .noRoot => "Schema document needs a non-empty 'root' URL"
  | .nodeNotMapping location => "Node at " ++ location ++ " must be a mapping"
  | .attributesNotMapping location => "'attributes' at " ++ location ++ " must be a mapping"
  | .routesNotMapping location => "'routes' at " ++ location ++ " must be a mapping"
  | .endpointNotText location => "'endpoint' at " ++ location ++ " must be a string"
  | .methodOfRoute location => "'method' at " ++ location ++ " is only valid on endpoints"
  | .emptyFile key location =>
    "Empty $file reference for '" ++ key ++ "' at " ++ location
  | .invalidNode location _ => "Invalid node at " ++ location ++ ": "
  | .invalidEndpoint id _ => "Invalid endpoint '" ++ id ++ "': "
  | .reservedKey key =>
    "Attribute key '" ++ key ++ "' is reserved (reserved keys: " ++
      Value.joined ", " reservedKeys ++ ")"
  | .emptyId place => "Endpoint at " ++ place ++ " has an empty id"
  | .notIdentifier id place =>
    "Endpoint id '" ++ id ++ "' at " ++ place ++ " is not a valid identifier"
  | .underscoredId id place =>
    "Endpoint id '" ++ id ++ "' at " ++ place ++ " must not start with an underscore"
  | .duplicateId id first second =>
    "Duplicate endpoint id '" ++ id ++ "' (" ++ first ++ " and " ++ second ++ ")"
  | .repeatedId id => "Duplicate endpoint id '" ++ id ++ "'"
  | .takenSegment segment parent =>
    "Segment '" ++ segment ++ "' is declared twice under '" ++
      (if parent == "" then "/" else parent) ++ "'"
  | .openRoute scope =>
    "Cannot build schema inside open route '/" ++ Value.joined "/" scope ++ "'"

/-- The wording of a fault of loading. -/
def LoadFault.message : LoadFault → String
  | .inputFailed detail => "Failed to read from stdin: " ++ detail
  | .inputEmpty => "No input received from stdin"
  | .status code address =>
    "HTTP " ++ toString code ++ " fetching schema from " ++ address
  | .unreachable address detail => "Failed to fetch schema from " ++ address ++ ": " ++ detail
  | .fileMissing file => "Schema file not found: " ++ file
  | .fileEmpty file => "Schema file is empty: " ++ file
  | .badJson detail => "Invalid JSON: " ++ detail
  | .badYaml => "Invalid YAML: "
  | .noModule name detail => "Cannot import module '" ++ name ++ "': " ++ detail
  | .noMember name member => "Module '" ++ name ++ "' has no attribute '" ++ member ++ "'"
  | .notSchema reference typeName =>
    "'" ++ reference ++ "' is a " ++ typeName ++
      ", expected a SchemaTree, SchemaBuilder or CompiledSchema"

/-- The wording of a rejection. -/
def Rejection.message : Rejection → String
  | .required => "is required"
  | .refused => "was rejected by the validator"
  | .other reason => reason

/-- The name of a placeholder as a value; an expression may match without its group. -/
def nameValue : Option String → Value
  | some s => .text s
  | none => .null

/-- The wording of a failure. -/
def Failure.message : Failure → String
  | .config fault => fault.message
  | .authoring fault => fault.message
  | .load fault => fault.message
  | .resolution endpoint key cause =>
    "Cannot resolve attribute '" ++ key ++ "' of endpoint '" ++ endpoint ++ "': " ++ cause.message
  | .rejected endpoint key reason =>
    endpoint ++ ": parameter '" ++ key.display ++ "' " ++ reason.message
  | .unfilled template name =>
    "Missing value for placeholder '" ++ (nameValue name).display ++ "' in '" ++ template ++ "'"
  | .dispatch message _ _ => message
  | .usage message => message
  | .custom _ message _ => message
  | .invalid _ => ""
  | .missingKey key => key.literal
  | .undecodable fault => fault.message
  | .broken breakdown => breakdown.message
  | .missingMember detail | .raised detail | .network _ detail | .badAddress detail
  | .wrongType detail | .wrongValue detail | .overflow detail | .badIndex detail
  | .system detail => detail

/-- The exit code of a family. -/
def Family.exitCode : Family → Int
  | .general | .config => ExitCode.general
  | .authoring | .load => ExitCode.schema

/-- The exit code of a failure of the library; the others have none. -/
def Failure.exitCode? : Failure → Option Int
  | .config _ => some ExitCode.general
  | .authoring _ | .load _ => some ExitCode.schema
  | .resolution _ _ _ => some ExitCode.resolution
  | .rejected _ _ _ | .unfilled _ _ | .usage _ => some ExitCode.usage
  | .dispatch _ status _ => some (ExitCode.ofStatus status)
  | .custom family _ code => some (code.getD family.exitCode)
  | _ => none

/-- The exit code of a command that ends with a failure. -/
def Failure.exitCode (f : Failure) : Int := f.exitCode?.getD ExitCode.general

/-! ## Texts of values and JSON -/

/-- The text of a value, if it has one. Only a container goes deep into the stack. -/
def Value.asText [Platform] (v : Value) : Except Failure String :=
  if v.isContainer && Platform.exhausts (.display v) then .error (.broken .tooDeep)
  else if v.printable then .ok v.display
  else .error (.wrongValue Value.tooManyDigits)

/-- A value has a text: the stack suffices for it, and its integers have one. -/
structure Value.HasText [Platform] (v : Value) : Prop where
  shallow : (v.isContainer && Platform.exhausts (.display v)) = false
  printable : v.printable = true

@[simp] theorem Value.asText_text [Platform] (s : String) : (Value.text s).asText = .ok s := rfl

@[simp] theorem Value.hasText_text [Platform] (s : String) : (Value.text s).HasText := ⟨rfl, rfl⟩

theorem Value.HasText.asText [Platform] {v : Value} (h : v.HasText) : v.asText = .ok v.display := by
  rw [Value.asText, h.shallow, if_neg Bool.false_ne_true, if_pos h.printable]

/-- A value has the text it shows or none. -/
theorem Value.asText_eq_ok [Platform] {v : Value} {s : String} :
    v.asText = .ok s ↔ v.HasText ∧ v.display = s := by
  refine ⟨fun h => ?_, fun ⟨h, same⟩ => same ▸ h.asText⟩
  rw [Value.asText] at h
  split at h
  · cases h
  · rename_i shallow
    split at h
    · cases h
      exact ⟨⟨Bool.not_eq_true _ ▸ shallow, ‹_›⟩, rfl⟩
    · cases h

/-- Only the platform and the limit of digits keep a value from having a text. -/
theorem Value.asText_eq_error [Platform] {v : Value} {f : Failure} (h : v.asText = .error f) :
    ¬ v.HasText ∧ (f = .broken .tooDeep ∨ f = .wrongValue tooManyDigits) := by
  refine ⟨fun has => ?_, ?_⟩
  · cases has.asText.symm.trans h
  · rw [Value.asText] at h
    split at h
    · cases h
      exact .inl rfl
    · split at h
      · cases h
      · cases h
        exact .inr rfl

/-- The failure that a fault of a JSON text becomes where malformed texts are expected. -/
def Json.Fault.failure? (text : String) : Json.Fault → Option Failure
  | .malformed _ _ => none
  | .tooManyDigits => some (.wrongValue (Json.Fault.message text .tooManyDigits))
  | .tooDeep => some (.broken .tooDeep)

/-- The failure that a fault of writing JSON becomes. -/
def Json.WriteFault.failure (fault : Json.WriteFault) : Failure :=
  match fault with
  | .tooManyDigits => .wrongValue fault.message
  | _ => .wrongType fault.message

theorem Json.WriteFault.exitCode?_failure (fault : Json.WriteFault) :
    fault.failure.exitCode? = none := by
  cases fault <;> rfl

/-- The JSON text of a value, if it has one. -/
def Json.writeText [Platform] (l : Json.Layout) (v : Value) : Except Failure String :=
  if v.isContainer && Platform.exhausts (.writeJson v) then .error (.broken .tooDeep)
  else (Json.write l v).mapError Json.WriteFault.failure

end RouteSchema
