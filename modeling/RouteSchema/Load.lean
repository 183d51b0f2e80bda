import RouteSchema.Document
import RouteSchema.Run
import RouteSchema.Yaml.Content

/-!
# Loading documents

A schema document is read from the standard input, from an address, or from a file, and is written
in JSON or YAML. A hint says which, by the ending of a file or the media type of a response; without
one, JSON is tried before YAML.

* `Load.parse` reads the text of a document.
* `Load.tree` loads a tree from where a text points to.
-/

namespace RouteSchema.Load

/-- In which language a document is said to be written. -/
inductive Hint
  | json
  | yaml
  | none
  deriving DecidableEq, Repr

/-- The failure that a fault of a YAML text becomes. -/
def yamlFailure : Yaml.Fault → Failure
  | .malformed => .load .badYaml
  | .notBoolean text => .missingKey (.text text)
  | .notTime => .missingMember "'NoneType' object has no attribute 'groupdict'"
  | .emptyNumber => .badIndex "string index out of range"
  | .badValue => .wrongValue "value out of range"
  | .tooLarge => .overflow "value too large to convert"
  | .cyclic => .broken .cyclic

variable [Platform]

/-- Reads YAML. -/
def parseYaml (text : String) : Except Failure Value :=
  if Platform.exhausts (.readYaml text) then .error (.broken .tooDeep)
  else (Yaml.read text).mapError yamlFailure

/-- Reads a document under a hint. -/
def parse (hint : Hint) (text : String) : Except Failure Value :=
  match hint with
  | .yaml => parseYaml text
  | _ =>
    match Json.readAt .document text with
    | .ok v => .ok v
    | .error fault =>
      match fault.failure? text, hint with
      | some failure, _ => .error failure
      | none, .json => .error (.load (.badJson (fault.message text)))
      | none, _ => parseYaml text

/-- Whether a list of characters stands in another one. -/
def occursAt (part : List Char) : List Char → Bool
  | [] => part.isEmpty
  | c :: cs => part.isPrefixOf (c :: cs) || occursAt part cs

/-- Whether a text stands in another one. -/
def occursIn (part text : String) : Bool := occursAt part.toList text.toList

/-- The hint of a media type. -/
def hintOfMedia (contentType : String) : Hint :=
  if occursIn "json" contentType then .json
  else if occursIn "yaml" contentType || occursIn "yml" contentType then .yaml
  else .none

/-- The hint of a file name. -/
def hintOfFile (f : FileName) : Hint :=
  match Text.asciiLower f.ending with
  | ".json" => .json
  | ".yaml" | ".yml" => .yaml
  | _ => .none

/-- The document on the standard input. -/
def fromInput : RunM Value := do
  match (← get).input with
  | .error detail => throw (.load (.inputFailed detail))
  | .ok text =>
    if Text.isBlankText text then throw (.load .inputEmpty)
    else RunM.ofExcept (parse .none text)

/-- The document at an address. -/
def fromAddress (address : String) : RunM Value := do
  RunM.act (.fetch address)
  match (← get).page with
  | .reply r =>
    if 200 ≤ r.status ∧ r.status < 300 then
      let text ← RunM.ofExcept (r.text.mapError .broken)
      RunM.ofExcept (parse (hintOfMedia r.contentType) text)
    else throw (.load (.status r.status address))
  | .fault kind detail =>
    if kind.isRequest then throw (.load (.unreachable address detail))
    else throw (.network kind detail)
  | .badAddress detail => throw (.badAddress detail)

/-- The document in a file. -/
def fromFile (path : String) : RunM Value := do
  let f := FileName.ofString path
  match ← RunM.ofEval (Eval.text? f) with
  | none => throw (.load (.fileMissing path))
  | some text =>
    if Text.isBlankText text then throw (.load (.fileEmpty path))
    else RunM.ofExcept (parse (hintOfFile f) text)

/-- Whether a source is an address. -/
def isAddress (source : String) : Bool :=
  source.startsWith "http://" || source.startsWith "https://"

/-- The document that a source points to. -/
def document (source : String) : RunM Value :=
  if source == "-" then fromInput
  else if isAddress source then fromAddress source
  else fromFile source

/-- The tree that a source points to. -/
def tree (source : String) : RunM SchemaTree := do
  let v ← document source
  RunM.ofExcept (Document.tree v)

end RouteSchema.Load
