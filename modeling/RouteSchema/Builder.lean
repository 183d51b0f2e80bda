import RouteSchema.Tree

/-!
# Building a tree step by step

A builder holds the routes that are open, from the innermost to the root. Declarations belong to the
innermost one. Closing a route attaches it to the route around it.

* `Build` is the type of steps: a step that fails leaves a builder behind as well.
-/

namespace RouteSchema

/-- A route that is open. -/
structure Scope where
  segment : String
  attributes : List Attribute := []
  children : Assoc String Node := []

/-- The node of a route. -/
def Scope.node (s : Scope) : Node := ⟨s.attributes, s.children, none, none⟩

/-- A builder: the innermost open route and those around it, the root being the last one. -/
structure Builder where
  address : String
  innermost : Scope
  around : List Scope := []

/-- Steps of building. -/
abbrev Build (α : Type) := ExceptT AuthoringFault (StateM Builder) α

namespace Builder

/-- The literal attributes of a mapping. -/
def literals (attributes : Assoc String Value) : List Attribute :=
  attributes.map fun (k, v) => .literal k v

/-- A builder with nothing but attributes of the root. -/
def start (address : String) (attributes : Assoc String Value) : Builder :=
  ⟨address, ⟨"", literals attributes, []⟩, []⟩

/-- The segments of the open routes, outermost first. -/
def scope (b : Builder) : List String :=
  ((b.innermost :: b.around).dropLast.map (·.segment)).reverse

/-- Opens a route. -/
def openRoute (segment : String) (attributes : Assoc String Value) : Build Unit :=
  modify fun b =>
    { b with innermost := ⟨segment, literals attributes, []⟩, around := b.innermost :: b.around }

/-- Attaches a node to the innermost route. A segment can be taken once only. -/
def attach (segment : String) (n : Node) : Build Unit := do
  let b ← get
  if b.innermost.children.contains segment then
    throw (.takenSegment segment b.innermost.segment)
  else
    set { b with innermost := { b.innermost with
      children := b.innermost.children.insert segment n } }

/-- Drops the innermost route. The root stays. -/
def abandonRoute : Build Unit :=
  modify fun b =>
    match b.around with
    | [] => b
    | s :: rest => { b with innermost := s, around := rest }

/-- Closes the innermost route and attaches it to the one around it. The root stays open. -/
def closeRoute : Build Unit := do
  let b ← get
  unless b.around.isEmpty do
    abandonRoute
    attach b.innermost.segment b.innermost.node

/-- Declares an attribute. -/
def declare (a : Attribute) : Build Unit :=
  modify fun b => { b with innermost := { b.innermost with
    attributes := b.innermost.attributes ++ [a] } }

/-- Declares an attribute with a value. -/
def literal (key : String) (value : Value) : Build Unit := declare (.literal key value)

/-- Declares a computed attribute. Its environment is the routes that are open now, under `scope`,
with the bindings over them. -/
def runtime (key : String) (expression : Dict → Eval Value) (bindings : Dict) : Build Unit := do
  let scope : Value := .tuple ((← get).scope.map .text)
  declare (.deferred key expression (pure (Assoc.overlay [(.text "scope", scope)] bindings)))

/-- Declares an endpoint. -/
def endpoint (segment : String) (identifier method : Value) (attributes : Assoc String Value) :
    Build Unit :=
  match Node.fields identifier method with
  | .error faults => throw (.invalidEndpoint identifier.display faults)
  | .ok (id, m) => attach segment ⟨literals attributes, [], id, m⟩

/-- The tree built so far. An address given here stands before that of the builder. -/
def build (address : String) : Build SchemaTree := do
  let b ← get
  if b.around.isEmpty then
    return ⟨if address == "" then b.address else address, b.innermost.node⟩
  else throw (.openRoute b.scope)

end Builder

end RouteSchema
