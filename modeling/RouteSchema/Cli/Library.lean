import RouteSchema.Builder
import RouteSchema.Compiled
import RouteSchema.Load

/-!
# Schemas of applications

An application may offer schemas in modules. A reference `module:member` names a module and a path
of members in it that leads to a tree, a builder or a compiled schema.

* `Library.tree` is the tree that a reference leads to.
* `Library.isReference` tells references from other sources.
-/

namespace RouteSchema.Cli

/-- What a module can hold. -/
inductive Member
  | tree (t : SchemaTree)
  | node (n : Node)
  | builder (b : Builder)
  | compiled (c : Compiled)
  | value (v : Value)
  | group (members : List (String × Member))
  /-- Anything else, known by the name of its type. -/
  | other (typeName : String)

namespace Member

/-- The name of a member's type. -/
def typeName : Member → String
  | .tree _ => "SchemaTree"
  | .node _ => "SchemaNode"
  | .builder _ => "SchemaBuilder"
  | .compiled _ => "CompiledSchema"
  | .value v => v.typeName
  | .group _ => "SimpleNamespace"
  | .other name => name

/-- A list of texts as a value. -/
def textList (xs : List String) : Value := .list (xs.map .text)

/-- The member of a member. -/
def get? : Member → String → Option Member
  | .tree t, "root_url" => some (.value (.text t.address))
  | .tree t, "root" => some (.node t.root)
  | .node n, "endpoint_id" => some (.value (n.endpoint.elim .null .text))
  | .node n, "is_endpoint" => some (.value (.bool n.isEndpoint))
  | .node n, "method" => some (n.method.elim (.value .null) fun _ => .other "HTTPMethod")
  | .node _, "attributes" => some (.other "tuple")
  | .node _, "children" => some (.other "dict")
  | .builder b, "scope" => some (.value (.tuple (b.scope.map .text)))
  | .builder _, name =>
    if ["route", "endpoint", "attribute", "runtime_attr", "build"].contains name then
      some (.other "method")
    else none
  | .compiled c, "tree" => some (.tree c.tree)
  | .compiled c, "ids" => some (.value (textList c.ids))
  | .compiled _, "endpoints" => some (.other "tuple")
  | .compiled _, name =>
    if ["endpoint", "resolve", "materialize", "client"].contains name then some (.other "method")
    else none
  | .group members, name => Assoc.get? members name
  | _, _ => none

/-- The member at the end of a path. -/
def follow? : Member → List String → Option Member
  | m, [] => some m
  | m, name :: names => (m.get? name).bind fun next => next.follow? names

end Member

/-- The modules at hand. -/
abbrev Library := Assoc String (Assoc String Member)

namespace Library

/-- The name of the module around a module; none if the name has no point. -/
def parent? (name : List Char) : Option (List Char) :=
  let last := (name.reverse.takeWhile (· != '.')).reverse
  if last.length == name.length then none else some (name.take (name.length - last.length - 1))

/-- Why a module is not at hand: a module around it is not, or it is none that holds modules. `fuel`
bounds the number of points in the name. -/
def absence? (library : Library) : (fuel : Nat) → List Char → Option String
  | 0, _ => none
  | fuel + 1, name =>
    let text := String.ofList name
    if Assoc.contains library text then none
    else
      match parent? name with
      | none => some ("No module named '" ++ text ++ "'")
      | some outer =>
        if outer.isEmpty then some ("No module named '" ++ text ++ "'")
        else
          match absence? library fuel outer with
          | some detail => some detail
          | none => some ("No module named '" ++ text ++ "'; '" ++ String.ofList outer ++
              "' is not a package")

/-- The members of a module. -/
def module (library : Library) (name : String) : Except Failure (Assoc String Member) :=
  match Assoc.get? library name with
  | some members => .ok members
  | none =>
    .error (.load (.noModule name
      ((absence? library (name.length + 1) name.toList).getD "")))

/-- The module and the path of members that a reference names. -/
def splitReference (reference : String) : String × String :=
  let name := reference.toList.takeWhile (· != ':')
  (String.ofList name, String.ofList (reference.toList.drop (name.length + 1)))

/-- The tree that a reference leads to. -/
def tree (library : Library) (reference : String) : Except Failure SchemaTree := do
  let (name, path) := splitReference reference
  let members ← module library name
  match (Member.group members).follow? ((path.toList.splitOn '.').map String.ofList) with
  | none => throw (.load (.noMember name path))
  | some (.tree t) => return t
  | some (.builder b) => (((Builder.build "").run.run b).1).mapError .authoring
  | some (.compiled c) => return c.tree
  | some m => throw (.load (.notSchema reference m.typeName))

/-- A dotted name: a letter of ASCII or an underscore, then word characters and points. -/
def isDotted : List Char → Bool
  | [] => false
  | c :: cs => (c.isAlpha || c == '_') && cs.all fun d => d == '.' || Text.isWordChar d

/-- Whether a source has the form of a reference: two dotted names with a colon between them. A line
feed at the end does not count. -/
def isReference (source : String) : Bool :=
  let cs := source.toList
  let cs := if cs.getLast? == some '\n' then cs.dropLast else cs
  let name := cs.takeWhile (· != ':')
  isDotted name && isDotted (cs.drop (name.length + 1))

end Library

end RouteSchema.Cli
