import RouteSchema.Client

/-!
# Compiled schemas

A compiled schema is a tree with its table. The table is made once; its values are computed anew
whenever they are asked for.
-/

namespace RouteSchema

/-- A tree and its table. -/
structure Compiled where
  tree : SchemaTree
  table : List Definition
  flattened : tree.flatten = .ok table

namespace Compiled

/-- Compiles a tree. -/
def ofTree (tree : SchemaTree) : Except AuthoringFault Compiled :=
  match h : tree.flatten with
  | .ok table => .ok ⟨tree, table, h⟩
  | .error fault => .error fault

/-- The definitions by identifier. -/
def byId (c : Compiled) : Assoc String Definition := Assoc.ofList (c.table.map fun d => (d.id, d))

/-- The identifiers. -/
def ids (c : Compiled) : List String := c.byId.keys

/-- The definition of an identifier. -/
def definition (c : Compiled) (id : String) : Except Failure Definition :=
  match Assoc.get? c.byId id with
  | some d => .ok d
  | none => .error (.missingKey (.text id))

/-- The endpoint of an identifier at this moment. -/
def resolve (c : Compiled) (id : String) : Eval Resolved := do
  (← ExceptT.mk (pure (c.definition id))).resolve

/-- All endpoints at this moment. -/
def materialize (c : Compiled) : Eval (List Resolved) := Definition.resolveAll c.table

/-- The client of the endpoints at this moment. -/
def client [Platform] {m : Type → Type} {ρ : Type} [Monad m] (c : Compiled)
    (capability : Option (Capability m ρ)) (dispatch : Option (Call → m ρ))
    (validator : Option (Value → Value → m Bool)) (choice : PatternChoice) :
    Eval (Client m ρ) := do
  let table ← c.materialize
  ExceptT.mk (pure (Client.generate table capability dispatch validator choice))

/-- The text of a compiled schema. -/
def summary (c : Compiled) : String :=
  "CompiledSchema(root_url=" ++ Text.quoted c.tree.address ++ ", endpoints=" ++
    toString c.table.length ++ ")"

end Compiled

end RouteSchema
