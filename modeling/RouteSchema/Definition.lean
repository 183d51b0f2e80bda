import RouteSchema.Path
import RouteSchema.Text.Identifier
import RouteSchema.Tree

/-!
# Endpoint definitions

Flattening a schema tree gives a table with one definition for every endpoint: its identifier, the
path from the root address down to it, its method and its attributes. An attribute is inherited by
everything below its node, and the closest declaration of a key wins. Values stay deferred.

* `SchemaTree.flatten` is the table, or the first fault of the tree.
-/

namespace RouteSchema

/-- An endpoint whose attributes are still deferred. -/
structure Definition where
  id : String
  path : String
  method : Method
  attributes : Assoc String Attribute

/-- The fields of an endpoint as an application gives them, or their faults. -/
def Definition.fields (id path method : Value) :
    Except (List FieldFault) (String × String × Method) :=
  match Field.text id, Field.text path, Method.field method with
  | .ok id, .ok path, .ok method => .ok (id, path, method)
  | id, path, method => .error (Field.faults ["id"] id ++ Field.faults ["path_template"] path ++
      Field.faults ["method"] method)

/-- Refuses an identifier that cannot name an endpoint: it must be an identifier of the usual form,
no reserved word, and must not begin with an underscore. -/
def checkId (place : String) : Option String → Except AuthoringFault String
  | none => .error (.emptyId place)
  | some id =>
    if id == "" then .error (.emptyId place)
    else if !Text.isIdentifier id || Text.isReservedWord id then .error (.notIdentifier id place)
    else if id.startsWith "_" then .error (.underscoredId id place)
    else .ok id

/-- The inherited attributes with a node's own attributes over them. -/
def mergeAttributes (inherited : Assoc String Attribute) :
    List Attribute → Except AuthoringFault (Assoc String Attribute)
  | [] => .ok inherited
  | a :: own =>
    if reservedKeys.contains a.key then .error (.reservedKey a.key)
    else mergeAttributes (inherited.insert a.key a) own

mutual

/-- The definitions of the endpoints at a node and below it. Nothing below an endpoint counts. -/
def Node.definitions (path : String) (inherited : Assoc String Attribute) (n : Node) :
    Except AuthoringFault (List Definition) :=
  match n with
  | ⟨own, children, endpoint, method⟩ => do
    let attributes ← mergeAttributes inherited own
    match endpoint with
    | some id => return [⟨← checkId path (some id), path, method.getD .get, attributes⟩]
    | none => definitionsBelow path attributes children

/-- The definitions of the endpoints below a node. -/
def definitionsBelow (path : String) (inherited : Assoc String Attribute) :
    List (String × Node) → Except AuthoringFault (List Definition)
  | [] => .ok []
  | (segment, child) :: rest => do
    let first ← child.definitions (Path.join path [segment]) inherited
    return first ++ (← definitionsBelow path inherited rest)

end

/-- The first definition whose identifier occurs before it, or among the given identifiers with
their paths. -/
def firstRepeated? (seen : Assoc String String) : List Definition → Option AuthoringFault
  | [] => none
  | d :: rest =>
    match Assoc.get? seen d.id with
    | some path => some (.duplicateId d.id path d.path)
    | none => firstRepeated? (Assoc.insert seen d.id d.path) rest

/-- The table of a tree. -/
def SchemaTree.flatten (t : SchemaTree) : Except AuthoringFault (List Definition) := do
  let table ← t.root.definitions t.address []
  match firstRepeated? [] table with
  | some fault => .error fault
  | none => .ok table

end RouteSchema
