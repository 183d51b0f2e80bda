import RouteSchema.Client
import RouteSchema.Http.Address
import RouteSchema.Run
import RouteSchema.Value.Mapping

/-!
# Calls over HTTP

The capability of sending calls as requests. The verb, headers and a query come from the attributes
of an endpoint; headers, a body and a timeout from the options of a call; and every parameter that
the path does not use goes into the query. Attempts that fail in the transport or with a status from
500 on are repeated after one second, two seconds, four seconds and so on.

* `Dispatcher.request` is the request of a call.
* `Dispatcher.attempt` sends it, with the repetitions that are left.
* `Dispatcher.dispatch` is the capability; in a dry run the request is shown and not sent.
-/

namespace RouteSchema

/-- The capability of sending calls as requests. -/
structure Dispatcher where
  transport : Transport
  dryRun : Bool
  pattern : PatternChoice
  report : Report

namespace Dispatcher

/-- The options that are bodies, in their order. -/
def bodyOptions : List String := ["json", "content", "data"]

variable [Platform]

/-- An entry as texts. -/
def textEntry (e : Value × Value) : Except Failure (String × String) := do
  return (← e.1.asText, ← e.2.asText)

/-- A value as a mapping between texts; any empty or zero value is the empty mapping. -/
def texts (v : Option Value) : Except Failure (Assoc String String) :=
  match v with
  | none => .ok []
  | some v =>
    if v.truthy then do
      let es ← v.mapping
      return Assoc.ofList (← es.mapM textEntry)
    else .ok []

/-- The headers: the default one, those of the endpoint, and those of the call. -/
def headers (c : Call) : Except Failure (Assoc String String) := do
  let own ← texts (c.attributes.getText? "headers")
  let called ← texts (c.options.getText? "headers")
  return Assoc.overlay (Assoc.overlay [("Accept", "application/json")] own) called

/-- The names that the path template of a call uses. -/
def pathNames (d : Dispatcher) (c : Call) : Except Failure (List (Option String)) := do
  let pattern ← Pattern.of d.pattern
  match (c.attributes.getText? "path_template").getD (.text "") with
  | .text template => return pattern.names template
  | _ => throw (.wrongType "expected string or bytes-like object")

/-- The parameters that go into the query: those with a value that the path does not use. -/
def queryParams (names : List (Option String)) (params : Dict) : Dict :=
  params.filter fun (k, v) => !(names.any fun name => nameValue name == k) && !(v == .null)

/-- The query: that of the endpoint with the parameters over it. -/
def query (names : List (Option String)) (c : Call) : Except Failure Dict := do
  let own ← match c.attributes.getText? "query" with
    | some v => if v.truthy then v.mapping else pure []
    | none => pure []
  return Assoc.overlay own (queryParams names c.params)

/-- An option that is given and not null. -/
def option? (c : Call) (name : String) : Option Value :=
  match c.options.getText? name with
  | some .null => none
  | found => found

/-- The body: every body option that is given. -/
def body (c : Call) : List (String × Value) :=
  bodyOptions.filterMap fun name => (option? c name).map fun v => (name, v)

/-- The request of a call. -/
def request (d : Dispatcher) (c : Call) : Except Failure Request := do
  let method ← ((c.attributes.getText? "method").getD (.text "GET")).asText
  let headers ← headers c
  let names ← d.pathNames c
  let params ← query names c
  return {
    method := Text.upper method
    address := c.address
    headers, params
    body := body c
    timeout := option? c "timeout" }

/-! ## Sending -/

/-- The channel of the log. -/
def channel : String := "restez.transport.http"

/-- Whether an answer calls for another attempt, and the words for it. -/
def retryReason? : Http.Exchange → Option String
  | .reply r => if r.status ≥ 500 then some ("Server error " ++ toString r.status) else none
  | .fault kind message => if kind.isTransport then some ("Connection error: " ++ message) else none
  | .badAddress _ => none

/-- Waits for some seconds. -/
def pause (seconds : Nat) : RunM Unit :=
  if Platform.canPause seconds then RunM.act (.pause seconds)
  else throw (.overflow "timestamp too large to convert")

/-- Sends a request until an answer is final or no attempt is left; `left` counts the
repetitions. -/
def attempt (d : Dispatcher) (r : Request) : (left : Nat) → RunM Http.Exchange
  | 0 => RunM.send r
  | left + 1 => do
    let answer ← RunM.send r
    match retryReason? answer with
    | none => return answer
    | some reason =>
      let attempts := d.transport.retries - left
      let delay := Nat.pow 2 (attempts - 1)
      RunM.note d.report channel
        (reason ++ ", retrying in " ++ toString delay ++ "s (attempt " ++ toString attempts ++
          "/" ++ toString d.transport.retries ++ ")")
      pause delay
      attempt d r left

/-- The beginning of the body of a response. -/
def excerpt (r : Http.Response) : Except Failure Value :=
  (r.text.map fun text => Value.text (String.ofList (text.toList.take 200))).mapError .broken

/-- What the body of a failed response says: the first of its members `message`, `error` and
`detail` that says something, its value, or the beginning of the body itself. -/
def complaint (r : Http.Response) : Except Failure Value :=
  match r.json? with
  | .error breakdown => .error (.broken breakdown)
  | .ok (some (.dict es)) =>
    let said := ["message", "error", "detail"].filterMap (Dict.getText? es)
    .ok ((said.find? Value.truthy).getD (.text ""))
  | .ok (some v) =>
    match v.asText with
    | .error (.wrongValue _) => excerpt r
    | shown => shown.map .text
  | .ok none => excerpt r

/-- The words for a failed response: its status and what it says. -/
def words (id : String) (r : Http.Response) : Except Failure String := do
  let front := id ++ ": HTTP " ++ toString r.status
  let said ← complaint r
  if said.truthy then return front ++ ": " ++ (← said.asText) else return front

/-- The failure of a response. -/
def failureOf (id : String) (r : Http.Response) : Except Failure Failure :=
  (words id r).map fun message => .dispatch message (some r.status) (some r)

/-- What the final answer to a call amounts to. A fault outside the transport is passed on. -/
def outcome (d : Dispatcher) (id : String) : Http.Exchange → RunM (Except Failure Http.Response)
  | .reply r =>
    if r.status ≥ 400 then return .error (← RunM.ofExcept (failureOf id r)) else return .ok r
  | .fault kind message =>
    if kind.isTransport then
      return .error (.dispatch
        (id ++ ": connection failed after " ++ toString (d.transport.retries + 1) ++
          " attempt(s): " ++ message) none none)
    else throw (.network kind message)
  | .badAddress message => throw (.badAddress message)

/-! ## Dry runs -/

/-- A body as it is shown. -/
def bodyText (kind : String) (v : Value) : Except Failure String :=
  if kind == "content" then v.asText else Json.writeText .strict v

/-- Shows a request, and answers it without sending it. -/
def rehearse (d : Dispatcher) (r : Request) : RunM Http.Response := do
  let tell := fun text => RunM.present (d.report.info text)
  tell ("[dry-run] " ++ r.method ++ " " ++ r.address)
  for (k, v) in r.headers do tell ("  Header: " ++ k ++ ": " ++ v)
  for e in r.params do
    let (k, v) ← RunM.ofExcept (textEntry e)
    tell ("  Param: " ++ k ++ "=" ++ v)
  for (kind, v) in r.body do
    tell ("  Body (" ++ kind ++ "): " ++ (← RunM.ofExcept (bodyText kind v)))
  if Http.Address.isSound r.address then return .notSent
  else throw (.badAddress "")

/-! ## The capability -/

/-- Sends the request of a call, or shows it in a dry run. -/
def dispatch (d : Dispatcher) (c : Call) : RunM (Except Failure Http.Response) := do
  let r ← RunM.ofExcept (d.request c)
  if d.dryRun then return .ok (← d.rehearse r)
  else d.outcome c.id (← d.attempt r d.transport.retries)

/-- The capability. It accepts every parameter. -/
def capability (d : Dispatcher) : Capability RunM (Except Failure Http.Response) where
  dispatch := d.dispatch
  accepts _ _ := pure true

/-- A step with a connection of its own, which is closed however the step ends. -/
def connected {α : Type} (d : Dispatcher) (step : RunM α) : RunM α := do
  RunM.act (.opening d.transport)
  RunM.ensuring step (RunM.act .closing)

end Dispatcher

end RouteSchema
