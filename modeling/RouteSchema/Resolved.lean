import RouteSchema.Definition

/-!
# Resolved endpoints

Resolving a definition computes its attributes, in order and each of them once. The first one that
fails ends the resolution, and the failure names the endpoint and the key. Nothing is kept between
two resolutions.
-/

namespace RouteSchema

/-- An endpoint with the values of its attributes. -/
structure Resolved where
  id : String
  path : String
  method : Method
  attributes : Assoc String Value

namespace Definition

/-- The value of an attribute of an endpoint. -/
def resolveEntry (id : String) (entry : String × Attribute) : Eval (String × Value) := do
  return (entry.1, ← entry.2.evaluate.adapt (Failure.resolution id entry.1))

/-- The endpoint of a definition at this moment. -/
def resolve (d : Definition) : Eval Resolved := do
  return ⟨d.id, d.path, d.method, ← d.attributes.mapM (resolveEntry d.id)⟩

/-- The endpoints of a table at this moment. -/
def resolveAll (table : List Definition) : Eval (List Resolved) := table.mapM resolve

end Definition

/-- What a call of an endpoint carries besides its parameters: the attributes, with the verb and the
path template under the reserved keys. -/
def Resolved.dispatchAttributes (r : Resolved) : Dict :=
  Assoc.overlay (r.attributes.map fun (k, v) => (.text k, v))
    [(.text "method", .text r.method.verb), (.text "path_template", .text r.path)]

end RouteSchema
