import RouteSchema.Failure

/-!
# Mappings from values

A value stands for a mapping if it is a dictionary or a sequence of pairs. A pair is any sequence of
two parts, and a text is the sequence of its characters.
-/

namespace RouteSchema.Value

/-- The parts of a value, in order. -/
def parts? : Value → Option (List Value)
  | .text s => some (s.toList.map fun c => .text (String.ofList [c]))
  | .bytes bs => some (bs.map fun b => .int b.toNat)
  | .list xs | .tuple xs | .set xs => some xs
  | .dict es => some (es.map Prod.fst)
  | _ => none

/-- The pair that the item at a position stands for. -/
def pair (position : Nat) (item : Value) : Except Failure (Value × Value) :=
  match item.parts? with
  | none => .error (.wrongType ("cannot convert dictionary update sequence element #" ++
      toString position ++ " to a sequence"))
  | some [k, v] =>
    if k.hashable then .ok (k, v)
    else .error (.wrongType ("unhashable type: '" ++ k.typeName ++ "'"))
  | some xs => .error (.wrongValue ("dictionary update sequence element #" ++
      toString position ++ " has length " ++ toString xs.length ++ "; 2 is required"))

/-- The pairs that items stand for, counted from a position on. -/
def pairs : Nat → List Value → Except Failure (List (Value × Value))
  | _, [] => .ok []
  | i, x :: xs => do
    let e ← pair i x
    return e :: (← pairs (i + 1) xs)

/-- The mapping that a value stands for. -/
def mapping : Value → Except Failure Dict
  | .dict es => .ok es
  | v =>
    match v.parts? with
    | some xs => (pairs 0 xs).map Assoc.ofList
    | none => .error (.wrongType ("'" ++ v.typeName ++ "' object is not iterable"))

end RouteSchema.Value
