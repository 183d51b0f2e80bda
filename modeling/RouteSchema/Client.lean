import RouteSchema.Resolved
import RouteSchema.Template

/-!
# Clients

A client has one function for every endpoint of a resolved table. A call of such a function checks
its parameters, fills them into the path template, and hands the request to the capability that the
application supplies. A call with bad parameters is answered without it.

* `EndpointFunction.call` is a call.
* `Client.generate` makes a client, or refuses a table.
-/

namespace RouteSchema

/-- What is handed to the application: the endpoint, its attributes, the address with the parameters
filled in, and the parameters and options of the call. -/
structure Call where
  id : String
  attributes : Dict
  address : String
  params : Dict
  options : Dict

/-- What an application supplies: performing a call, and accepting or rejecting a parameter. -/
structure Capability (m : Type → Type) (ρ : Type) where
  dispatch : Call → m ρ
  accepts : Value → Value → m Bool

/-- The function of an endpoint. -/
structure EndpointFunction (m : Type → Type) (ρ : Type) where
  endpoint : Resolved
  capability : Capability m ρ
  pattern : Pattern

namespace EndpointFunction

variable {m : Type → Type} {ρ : Type}

/-- The names that the path template needs, in order. -/
def required (f : EndpointFunction m ρ) : List (Option String) := f.pattern.names f.endpoint.path

/-- The verb and the path template. -/
def summary (f : EndpointFunction m ρ) : String := f.endpoint.method.verb ++ " " ++ f.endpoint.path

/-- The text of an endpoint function. -/
def label (f : EndpointFunction m ρ) : String :=
  "<EndpointFunction " ++ f.endpoint.id ++ ": " ++ f.summary ++ ">"

/-- The key of the first parameter that is not accepted. -/
def firstRefused? [Monad m] (accepts : Value → Value → m Bool) : Dict → m (Option Value)
  | [] => pure none
  | (key, value) :: rest => do
    if ← accepts key value then firstRefused? accepts rest else return some key

/-- The rejection of a parameter that is not accepted. Its key must have a text. -/
def refusal [Platform] (id : String) (key : Value) : Failure :=
  match key.asText with
  | .ok _ => .rejected id key .refused
  | .error failure => failure

/-- The rejection of the parameters: a required one is missing, or one is not accepted. -/
def rejection? [Platform] [Monad m] (f : EndpointFunction m ρ) (params : Dict) :
    m (Option Failure) := do
  match f.required.find? fun name => (Template.given? params name).isNone with
  | some name => return some (.rejected f.endpoint.id (nameValue name) .required)
  | none =>
    match ← firstRefused? f.capability.accepts params with
    | some key => return some (refusal f.endpoint.id key)
    | none => return none

/-- A call: what the application's dispatch yields, or why it was not reached. A rejection is handed
to the caller; what is no failure of the library is raised. -/
def call [Platform] [Monad m] (f : EndpointFunction m ρ) (params options : Dict) :
    m (Except Failure ρ) := do
  match ← f.rejection? params with
  | some failure => return .error failure
  | none =>
    match f.pattern.interpolate f.endpoint.path params with
    | .error failure => return .error failure
    | .ok address =>
      return .ok (← f.capability.dispatch
        ⟨f.endpoint.id, f.endpoint.dispatchAttributes, address, params, options⟩)

end EndpointFunction

/-- A client: its functions by identifier. -/
structure Client (m : Type → Type) (ρ : Type) where
  functions : Assoc String (EndpointFunction m ρ)

namespace Client

variable {m : Type → Type} {ρ : Type}

/-- The identifiers. -/
def ids (c : Client m ρ) : List String := c.functions.keys

/-- The resolved table. -/
def endpoints (c : Client m ρ) : List Resolved := c.functions.values.map (·.endpoint)

/-- The function of an identifier. -/
def item (c : Client m ρ) (id : String) : Except Failure (EndpointFunction m ρ) :=
  match Assoc.get? c.functions id with
  | some f => .ok f
  | none => .error (.missingKey (.text id))

/-- The function of a name used as a member. Names with an underscore in front are not members. -/
def member (c : Client m ρ) (name : String) : Except Failure (EndpointFunction m ρ) :=
  if name.startsWith "_" then .error (.missingMember name)
  else
    match Assoc.get? c.functions name with
    | some f => .ok f
    | none => .error (.missingMember ("Client has no endpoint '" ++ name ++ "'"))

/-- The text of a client. -/
def summary (c : Client m ρ) : String := "Client(" ++ Value.joined ", " c.ids ++ ")"

/-- Adds the functions of endpoints, in order. Identifiers must be proper and distinct. -/
def addAll (capability : Capability m ρ) (pattern : Pattern) :
    Assoc String (EndpointFunction m ρ) → List Resolved →
      Except AuthoringFault (Assoc String (EndpointFunction m ρ))
  | functions, [] => .ok functions
  | functions, r :: rest => do
    let id ← checkId r.path (some r.id)
    if functions.contains id then .error (.repeatedId id)
    else addAll capability pattern (functions.insert id ⟨r, capability, pattern⟩) rest

/-- The client of a resolved table. A dispatch and a validator of their own stand before those of
the capability; without a validator every parameter is accepted. -/
def generate [Platform] [Monad m] (table : List Resolved) (capability : Option (Capability m ρ))
    (dispatch : Option (Call → m ρ)) (validator : Option (Value → Value → m Bool))
    (choice : PatternChoice) : Except Failure (Client m ρ) := do
  let some dispatch := dispatch <|> capability.map (·.dispatch) | .error (.config .noDispatcher)
  let accepts := (validator <|> capability.map (·.accepts)).getD fun _ _ => pure true
  let pattern ← Pattern.of choice
  return ⟨← (addAll ⟨dispatch, accepts⟩ pattern [] table).mapError .authoring⟩

end Client

end RouteSchema
