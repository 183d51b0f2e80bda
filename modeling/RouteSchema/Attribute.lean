import RouteSchema.Source

/-!
# Attributes

An attribute is a key with a value that is computed when it is needed: first the environment, then
the expression in it.
-/

namespace RouteSchema

/-- A key with a deferred value. -/
structure Attribute where
  key : String
  environment : Eval Dict
  expression : Dict → Eval Value

namespace Attribute

/-- An attribute with a value that does not depend on anything. -/
def literal (key : String) (value : Value) : Attribute := ⟨key, pure [], fun _ => pure value⟩

/-- An attribute with a computed value. -/
def deferred (key : String) (expression : Dict → Eval Value) (environment : Eval Dict := pure []) :
    Attribute := ⟨key, environment, expression⟩

/-- An attribute that is looked up. -/
def ofSource (key : String) (source : Source) : Attribute := deferred key fun _ => source.read

/-- The value of an attribute at this moment. -/
def evaluate (a : Attribute) : Eval Value := do a.expression (← a.environment)

end Attribute

end RouteSchema
