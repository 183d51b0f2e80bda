import RouteSchema.Attribute
import RouteSchema.Field
import RouteSchema.Text.Case

/-!
# Schema trees

A schema is a root address and a tree of nodes. A node is a route, which groups the nodes below it
under a segment of the path, or an endpoint. Every node may declare attributes.

* `Node.fields` checks the fields of a node as a document or an application gives them.
-/

namespace RouteSchema

/-- The method of a request. -/
inductive Method
  | get
  | post
  | put
  | patch
  | delete
  | head
  | options
  | trace
  deriving DecidableEq, Repr, Inhabited

namespace Method

/-- The verb of a method. -/
def verb : Method → String
  | .get => "GET"
  | .post => "POST"
  | .put => "PUT"
  | .patch => "PATCH"
  | .delete => "DELETE"
  | .head => "HEAD"
  | .options => "OPTIONS"
  | .trace => "TRACE"

/-- The methods. -/
def all : List Method := [.get, .post, .put, .patch, .delete, .head, .options, .trace]

/-- The method with a verb in capitals. -/
def ofVerb? (s : String) : Option Method := all.find? (·.verb == s)

/-- A method as a field, written as its verb. -/
def field (v : Value) : Except String Method :=
  ((Field.text v).toOption.bind ofVerb?).elim (.error "enum") .ok

end Method

/-- A node. One with an identifier is an endpoint, and what stands below it does not count. The
children are listed by segment, and no two have the same. -/
structure Node where
  attributes : List Attribute
  children : List (String × Node)
  endpoint : Option String
  method : Option Method

namespace Node

/-- Whether a node is an endpoint. -/
def isEndpoint (n : Node) : Bool := n.endpoint.isSome

/-- An identifier as a field; it may be missing. -/
def identifierField : Value → Except String (Option String)
  | .null => .ok none
  | v => (Field.text v).map some

/-- A method as a field; it may be missing. A verb may be written in letters of either case. -/
def methodField : Value → Except String (Option Method)
  | .null => .ok none
  | .text s => ((Method.ofVerb? (Text.upper s)).map some).elim (.error "enum") .ok
  | v => (Method.field v).map some

/-- The identifier and the method of a node, or the faults of either. -/
def fields (identifier method : Value) :
    Except (List FieldFault) (Option String × Option Method) :=
  match identifierField identifier, methodField method with
  | .ok id, .ok m => .ok (id, m)
  | id, m => .error (Field.faults ["endpoint_id"] id ++ Field.faults ["method"] m)

end Node

/-- A schema tree. -/
structure SchemaTree where
  address : String
  root : Node

end RouteSchema
