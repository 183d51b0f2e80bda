import RouteSchema.Text.Order
import RouteSchema.Tree

/-!
# Schema documents

A document is a mapping with a root address, attributes and routes. Every node may have attributes
and routes; one with an `endpoint` is an endpoint and may have a `method`. The value of an attribute
stands for itself, or describes where it is looked up: `$env` names an environment variable and
`$file` a file.

* `Document.tree` is the tree that a document describes.
-/

namespace RouteSchema.Document

/-- The keys of a node. -/
def nodeKeys : List String := ["attributes", "endpoint", "method", "routes"]

/-- The keys of a document. -/
def rootKeys : List String := ["attributes", "root", "routes"]

/-- Whether a key is one of the allowed keys. -/
def allows (allowed : List String) (key : Value) : Bool := allowed.any fun k => key == .text k

/-- The mapping under a key; empty if it is absent or any empty or zero value, none if it is another
value. -/
def part? (entries : Dict) (key : String) : Option Dict :=
  match Dict.getText? entries key with
  | none => some []
  | some v => if v.truthy then v.dict? else some []

theorem sizeOf_le_of_get? {entries : Dict} {key v : Value} (h : Assoc.get? entries key = some v) :
    sizeOf v < sizeOf entries := by
  induction entries with
  | nil => simp at h
  | cons e rest ih =>
    obtain ⟨k, w⟩ := e
    simp only [Assoc.get?] at h
    split at h
    · cases h
      simp only [List.cons.sizeOf_spec, Prod.mk.sizeOf_spec]
      omega
    · have := ih h
      simp only [List.cons.sizeOf_spec]
      omega

theorem sizeOf_nil_lt (entries : Dict) : sizeOf ([] : Dict) < sizeOf (Value.dict entries) := by
  simp only [List.nil.sizeOf_spec, Value.dict.sizeOf_spec]
  cases entries with
  | nil => simp only [List.nil.sizeOf_spec]; omega
  | cons entry rest => simp only [List.cons.sizeOf_spec]; omega

theorem sizeOf_lt_of_part? {entries part : Dict} {key : String}
    (h : part? entries key = some part) : sizeOf part < sizeOf (Value.dict entries) := by
  unfold part? at h
  split at h
  · cases h
    exact sizeOf_nil_lt entries
  · rename_i v hv
    have lt := sizeOf_le_of_get? (by simpa [Dict.getText?] using hv)
    split at h
    · cases v <;> simp only [Value.dict?, reduceCtorEq, Option.some.injEq] at h
      subst h
      simp only [Value.dict.sizeOf_spec] at lt ⊢
      omega
    · cases h
      exact sizeOf_nil_lt entries

variable [Platform]

/-- Refuses a mapping with other keys than the allowed ones. -/
def checkKeys (entries : Dict) (allowed : List String) (location : String) :
    Except Failure Unit := do
  let unknown ← ((Assoc.keys entries).filter (!allows allowed ·)).mapM Value.asText
  if unknown.isEmpty then return ()
  else .error (.authoring (.unknownKeys location (Text.sorted unknown) allowed))

/-- The source that the value of an attribute describes, if it does. A file needs a path. -/
def source? (key location : String) : Value → Except Failure (Option Source)
  | .dict es =>
    match Dict.getText? es "$env", Dict.getText? es "$file" with
    | some name, _ => do return some (.setting (← name.asText) (Dict.getText? es "default"))
    | none, some path => do
      let path ← path.asText
      if path == "" then .error (.authoring (.emptyFile key location))
      else return some (.file path)
    | none, none => .ok none
  | _ => .ok none

/-- The attribute that an entry declares. -/
def declaration (location : String) (entry : Value × Value) : Except Failure Attribute := do
  let key ← entry.1.asText
  match ← source? key location entry.2 with
  | some source => return .ofSource key source
  | none => return .literal key entry.2

/-- The location of the node at a segment. -/
def childLocation (location segment : String) : String :=
  String.ofList (location.toList.reverse.dropWhile (· == '/')).reverse ++ "/" ++ segment

mutual

/-- The node that a value describes. -/
def node (location : String) (v : Value) : Except Failure Node :=
  match v with
  | .dict entries => do
    checkKeys entries nodeKeys location
    let some declared := part? entries "attributes"
      | .error (.authoring (.attributesNotMapping location))
    let attributes ← declared.mapM (declaration location)
    match _found : part? entries "routes" with
    | none => .error (.authoring (.routesNotMapping location))
    | some routes =>
      let children ← nodes location routes
      let identifier := (Dict.getText? entries "endpoint").getD .null
      if !(identifier == .null) && identifier.text?.isNone then
        .error (.authoring (.endpointNotText location))
      else if identifier == .null && (Dict.getText? entries "method").isSome then
        .error (.authoring (.methodOfRoute location))
      else
        match Node.fields identifier ((Dict.getText? entries "method").getD .null) with
        | .error faults => .error (.authoring (.invalidNode location faults))
        | .ok (endpoint, method) =>
          .ok ⟨attributes, Assoc.ofList children, endpoint, method⟩
  | _ => .error (.authoring (.nodeNotMapping location))
termination_by sizeOf v
decreasing_by exact sizeOf_lt_of_part? _found

/-- The nodes that the entries of routes describe, by segment. -/
def nodes (location : String) (routes : List (Value × Value)) :
    Except Failure (List (String × Node)) :=
  match routes with
  | [] => .ok []
  | (key, v) :: rest => do
    let segment ← key.asText
    let child ← node (childLocation location segment) v
    return (segment, child) :: (← nodes location rest)
termination_by sizeOf routes

end

/-- The tree that a document describes. -/
def tree : Value → Except Failure SchemaTree
  | .dict entries => do
    checkKeys entries rootKeys "/"
    let address := ((Dict.getText? entries "root").bind Value.text?).getD ""
    if address == "" then .error (.authoring .noRoot)
    else return ⟨address, ← node "/" (.dict (Assoc.erase entries (.text "root")))⟩
  | _ => .error (.authoring .documentNotMapping)

end RouteSchema.Document
