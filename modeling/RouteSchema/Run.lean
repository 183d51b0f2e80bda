import RouteSchema.Report

/-!
# Runs

A run is everything a command meets and does: the world it computes values in, the answers that
servers give, the text on the standard input, and the trace of its acts.

* `RunM` is the type of steps of a run. A step that fails leaves its acts in the trace.
-/

namespace RouteSchema

/-- How requests are sent: the seconds until one is given up, thirty unless they are given; whether
certificates are verified; and how often a failed attempt is repeated. -/
structure Transport where
  timeout : Option Binary64 := none
  verify : Bool := true
  retries : Nat := 3

/-- A request. -/
structure Request where
  method : String
  address : String
  headers : Assoc String String
  params : Dict
  body : List (String × Value)
  timeout : Option Value

/-- An act of a run. -/
inductive Act
  /-- Something is shown. -/
  | showing (s : Shown)
  /-- A record is written to a log. -/
  | log (channel message : String)
  /-- A request is sent. -/
  | request (r : Request)
  /-- A document is fetched from an address. -/
  | fetch (address : String)
  /-- The run waits for some seconds. -/
  | pause (seconds : Nat)
  /-- A connection is opened. -/
  | opening (transport : Transport)
  /-- The connection is closed. -/
  | closing
  /-- The help is shown. -/
  | help
  /-- The usage is shown with what is wrong with the command line. -/
  | usage
  /-- A failure that nothing accounts for is described. -/
  | crash (f : Failure)

/-- What a run meets, and its trace. -/
structure Run where
  world : World
  /-- The answers to requests in order. The last one is repeated; without any, every answer is empty
  and successful. -/
  script : List Http.Exchange := []
  /-- The answer to fetching a document. -/
  page : Http.Exchange := .reply ⟨200, [], []⟩
  /-- The text on the standard input, or why it cannot be read. -/
  input : Except String String := .ok ""
  trace : List Act := []

/-- Steps of a run. -/
abbrev RunM (α : Type) := ExceptT Failure (StateM Run) α

namespace RunM

/-- Adds an act to the trace. -/
def act (a : Act) : RunM Unit := modify fun r => { r with trace := r.trace ++ [a] }

/-- Shows things. -/
def present (shown : List Shown) : RunM Unit :=
  modify fun r => { r with trace := r.trace ++ shown.map .showing }

/-- Writes a record to a log, if the report is verbose. -/
def note (r : Report) (channel message : String) : RunM Unit :=
  if r.verbose then act (.log channel message) else pure ()

/-- The outcome of a computation without effects. -/
def ofExcept {α : Type} (x : Except Failure α) : RunM α := ExceptT.mk (pure x)

/-- A computation in the world of the run. -/
def ofEval {α : Type} (x : Eval α) : RunM α :=
  ExceptT.mk fun r =>
    let (result, world) := x.run.run r.world
    (result, { r with world })

/-- The next answer of a script, and the script after it. -/
def nextAnswer : List Http.Exchange → Http.Exchange × List Http.Exchange
  | [] => (.reply ⟨200, [], []⟩, [])
  | [e] => (e, [e])
  | e :: rest => (e, rest)

/-- Sends a request. -/
def send (request : Request) : RunM Http.Exchange := do
  act (.request request)
  let r ← get
  let (answer, script) := nextAnswer r.script
  set { r with script }
  return answer

/-- Runs a step with what to do after it, however it ends. -/
def ensuring {α : Type} (step : RunM α) (after : RunM Unit) : RunM α := do
  let result ← ExceptT.lift step.run
  after
  ofExcept result

end RunM

end RouteSchema
