import RouteSchema.Pattern

/-!
# Templates

A template is cut at its placeholders: texts that stand as they are, names between them, and a text
after the last name.

* `Template.names` lists the names, each of them once.
* `Template.fill` puts the texts of values in the place of the names, all at once.
-/

namespace RouteSchema

/-- A template: each name with the text before it, and the text after the last one. An expression
may match although its group takes no part; such a placeholder has no name. -/
structure Template where
  holes : List (List Char × Option String)
  tail : List Char
  deriving DecidableEq, Repr

namespace Template

/-- Cuts the text from a place on at the matches that follow. -/
def cut (place : Regex.Cursor) : List Regex.Found → Template
  | [] => ⟨[], place.after⟩
  | m :: ms =>
    let rest := cut m.stop ms
    ⟨(place.between m.start, (m.captures.get? 1).map String.ofList) :: rest.holes, rest.tail⟩

/-- The template that a text is under a pattern. -/
def read (p : Pattern) (text : String) : Template :=
  cut (.start text.toList) (p.program.findAll text)

/-- A list without later repetitions. -/
def firsts {α : Type} [BEq α] : List α → List α
  | [] => []
  | x :: xs => x :: (firsts xs).filter (!· == x)

/-- The names in order of their first place. -/
def names (t : Template) : List (Option String) := firsts (t.holes.map Prod.snd)

/-- The value that a name has in the parameters; none if it is absent or null. -/
def given? (params : Dict) (name : Option String) : Option Value :=
  match Assoc.get? params (nameValue name) with
  | some .null => none
  | found => found

/-- The first name without a value. -/
def missing? (t : Template) (params : Dict) : Option (Option String) :=
  t.names.find? fun name => (given? params name).isNone

/-- The text with the values of the names in their places. -/
def substitute (t : Template) (value : Option String → String) : String :=
  String.ofList (t.holes.flatMap (fun (text, name) => text ++ (value name).toList) ++ t.tail)

/-- The value put in the place of a name. -/
def value (params : Dict) (name : Option String) : Value := (given? params name).getD .null

/-- The text with the parameters in the places of the names. Otherwise the first name without a
value is reported, and if all of them have one, the first value without a text. -/
def fill [Platform] (t : Template) (source : String) (params : Dict) : Except Failure String :=
  match t.missing? params with
  | some name => .error (.unfilled source name)
  | none => do
    t.names.forM fun name => do discard (value params name).asText
    return t.substitute fun name => (value params name).display

end Template

/-- The names of the placeholders of a text, each of them once. -/
def Pattern.names (p : Pattern) (text : String) : List (Option String) :=
  (Template.read p text).names

/-- A text with parameters in the places of its placeholders. -/
def Pattern.interpolate [Platform] (p : Pattern) (text : String) (params : Dict) :
    Except Failure String :=
  (Template.read p text).fill text params

end RouteSchema
