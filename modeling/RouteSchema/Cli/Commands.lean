import RouteSchema.Cli.Library
import RouteSchema.Cli.Line
import RouteSchema.Cli.Pairs
import RouteSchema.Http.Dispatcher
import RouteSchema.Settings

/-!
# Commands

The commands as steps of a run. `endpoints` lists a schema without computing any value, `show`
computes the values of one endpoint, and `call` calls an endpoint over HTTP.

* `Cli.runLine` runs a command line and yields its exit code. Failures of the library are reported
  with their wording and exit with their code; any other failure is described as unexpected.
-/

namespace RouteSchema.Cli

/-- The name of the program. -/
def programName : String := "restez"

/-- The version of the program. -/
def programVersion : String := "0.1.0"

/-- What the steps of a command have in common. -/
structure Context where
  shared : Shared
  report : Report
  library : Library

namespace Context

variable [Platform]

/-- The settings under the shared options. -/
def settings (x : Context) : RunM Settings :=
  RunM.ofEval (Settings.resolve x.shared.pattern x.shared.address)

/-- The tree that a source names: a reference, unless there is a file of that name, or a
document. -/
def tree (x : Context) (source : String) : RunM SchemaTree := do
  if Library.isReference source then
    match ← RunM.ofEval (Eval.entry? (.ofString source)) with
    | some _ => Load.tree source
    | none => RunM.ofExcept (x.library.tree source)
  else Load.tree source

/-- The tree of a source with the address of the settings in the place of its own, if they have
one. -/
def placedTree (x : Context) (source : String) (s : Settings) : RunM SchemaTree := do
  let tree ← x.tree source
  match s.address with
  | none => return tree
  | some address =>
    if address == "" then return tree
    else
      RunM.present (x.report.debug
        ("Replacing root URL " ++ tree.address ++ " with " ++ address))
      return { tree with address }

/-- The compiled schema of a source. -/
def compiled (x : Context) (source : String) (s : Settings) : RunM Compiled := do
  let tree ← x.placedTree source s
  let c ← RunM.ofExcept ((Compiled.ofTree tree).mapError .authoring)
  RunM.note x.report "restez.schema.flattener"
    ("Flattened schema " ++ tree.address ++ " into " ++ toString c.table.length ++ " endpoint(s)")
  return c

/-- Refuses an identifier that the schema does not have. -/
def requireEndpoint (c : Compiled) (id : String) : RunM Unit :=
  if c.ids.contains id then pure ()
  else throw (.usage ("Unknown endpoint '" ++ id ++ "'. Run: " ++ programName ++
    " endpoints <schema>"))

/-! ## Listing -/

/-- Names as texts. A placeholder without a name cannot be listed. -/
def nameTexts : Nat → List (Option String) → Except Failure (List String)
  | _, [] => .ok []
  | i, some name :: names => return name :: (← nameTexts (i + 1) names)
  | i, none :: _ =>
    .error (.wrongType ("sequence item " ++ toString i ++
      ": expected str instance, NoneType found"))

/-- A text that is not empty, or a hyphen. -/
def orHyphen (s : String) : String := if s == "" then "-" else s

/-- The row of a definition. -/
def row (pattern : Pattern) (d : Definition) : Except Failure (List String) := do
  let names ← nameTexts 0 (pattern.names d.path)
  return [d.id, d.method.verb, d.path, orHyphen (Value.joined ", " names),
    orHyphen (Value.joined ", " (Text.sorted d.attributes.keys))]

/-- The headings of a listing. -/
def headings : List String := ["Id", "Method", "Path", "Params", "Attributes"]

/-- Shows something step by step, up to the first step that fails. -/
def showAll (steps : List (Except Failure Shown)) : RunM Unit :=
  match steps.mapM id with
  | .ok shown => RunM.present shown
  | .error f => do
    RunM.present (Report.leading steps)
    throw f

/-- Lists the endpoints of a schema. -/
def endpoints (x : Context) (source : String) : RunM Unit := do
  let s ← x.settings
  let c ← x.compiled source s
  let rows ← RunM.ofExcept (c.table.mapM (row s.pattern))
  let title := c.tree.address ++ " -- Endpoints (" ++ toString rows.length ++ ")"
  showAll (x.report.tableSteps headings rows (some title))

/-! ## Showing -/

/-- A resolved endpoint as data. -/
def details (pattern : Pattern) (r : Resolved) : Value :=
  .dict [
    (.text "id", .text r.id),
    (.text "method", .text r.method.verb),
    (.text "path_template", .text r.path),
    (.text "required_params", .list ((pattern.names r.path).map nameValue)),
    (.text "attributes", .dict (r.attributes.map fun (k, v) => (.text k, v)))]

/-- Shows data. -/
def render (x : Context) (data : Value) : RunM Unit := showAll (x.report.responseSteps data)

/-- Shows an endpoint with its values. -/
def inspect (x : Context) (source id : String) : RunM Unit := do
  let s ← x.settings
  let c ← x.compiled source s
  requireEndpoint c id
  let r ← RunM.ofEval (c.resolve id)
  x.render (details s.pattern r)

/-! ## Calling -/

/-- The option that a body is: its JSON value, or the text itself if it is no JSON. -/
def bodyOption (body : String) : Except Failure Dict :=
  match Json.readAt .body body with
  | .ok v => .ok [(.text "json", v)]
  | .error fault =>
    match fault.failure? body with
    | some failure => .error failure
    | none => .ok [(.text "content", .text body)]

/-- A mapping between texts as a value. -/
def textDict (m : Assoc String String) : Dict := m.map fun (k, v) => (.text k, .text v)

/-- What a response says: its JSON value, or its text; none without a body. -/
def responseData (r : Http.Response) : Except Failure Value :=
  if r.body.isEmpty then .ok .null
  else
    match r.json? with
    | .error breakdown => .error (.broken breakdown)
    | .ok (some v) => .ok v
    | .ok none => (r.text.map Value.text).mapError .broken

/-- The line for the status of a response. -/
def statusLine (r : Http.Response) : String :=
  Text.stripEnd ("HTTP " ++ toString r.status ++ " " ++ r.reason)

/-- The channel of the log of clients. -/
def clientChannel : String := "restez.generator.client"

/-- The capability of a dispatcher, with a record of every call. -/
def recorded (d : Dispatcher) : Capability RunM (Except Failure Http.Response) :=
  { d.capability with
    dispatch := fun c => do
      RunM.note d.report clientChannel ("Dispatching " ++ c.id ++ " " ++ c.address)
      d.dispatch c }

/-- The client of a schema. -/
def client (c : Compiled) (d : Dispatcher) :
    RunM (Client RunM (Except Failure Http.Response)) := do
  let table ← RunM.ofEval c.materialize
  RunM.note d.report "restez.schema.resolver"
    ("Resolved " ++ toString table.length ++ " endpoint definition(s)")
  let client ← RunM.ofExcept
    (Client.generate table (some (recorded d)) none none d.pattern)
  RunM.note d.report clientChannel
    ("Generated client with " ++ toString client.functions.length ++ " endpoint function(s)")
  return client

/-- Calls an endpoint of a client. -/
def perform (d : Dispatcher) (client : Client RunM (Except Failure Http.Response)) (id : String)
    (params options : Dict) : RunM Http.Response := do
  let f ← RunM.ofExcept (client.item id)
  match ← f.call params options with
  | .ok result => RunM.ofExcept result
  | .error failure =>
    let note := fun what =>
      RunM.note d.report clientChannel (what ++ id ++ ": " ++ failure.message)
    match failure with
    | .unfilled _ _ => note "Interpolation failed for "
    | .rejected _ _ _ => note "Rejected call to "
    | _ => pure ()
    throw failure

/-- Calls an endpoint of a schema and shows what it answers. -/
def call (x : Context) (source id : String) (params headers : List String) (body : Option String) :
    RunM Unit := do
  let params ← RunM.ofExcept (Pairs.read "=" "--param" params)
  let headers ← RunM.ofExcept (Pairs.read ":" "--header" headers)
  let body ← RunM.ofExcept (body.elim (.ok []) bodyOption)
  let options : Dict := (.text "headers", .dict (textDict headers)) :: body
  let s ← x.settings
  let c ← x.compiled source s
  requireEndpoint c id
  let d : Dispatcher := {
    transport := s.transport
    dryRun := x.shared.dryRun
    pattern := .compiled s.pattern.source s.pattern.program
    report := x.report }
  let r ← d.connected do
    let client ← client c d
    perform d client id (textDict params) options
  RunM.present (x.report.info (statusLine r))
  match ← RunM.ofExcept (responseData r) with
  | .null => pure ()
  | data => x.render data

/-- Runs a command. -/
def run (x : Context) : Command → RunM Unit
  | .endpoints source => x.endpoints source
  | .inspect source id => x.inspect source id
  | .call source id params headers body => x.call source id params headers body

end Context

/-- The form of data that the shared options ask for. -/
def formOf (s : Shared) : Option DataForm :=
  if s.json then some .json else if s.plain then some .plain else none

/-- The exit code of a command that ends with a failure, which is reported. -/
def reportFailure (r : Report) (f : Failure) : RunM Int := do
  match f.exitCode? with
  | some code =>
    RunM.present (r.error f.message)
    return code
  | none =>
    RunM.act (.crash f)
    RunM.present (r.error ("Unexpected error: " ++ f.message))
    return ExitCode.general

/-- Runs a command under the shared options, with its exit code. -/
def runCommand [Platform] (library : Library) (terminal : Bool) (shared : Shared) (c : Command) :
    RunM Int := do
  let report := Report.of (formOf shared) shared.noColour shared.quiet shared.verbose terminal
    (← get).world.variables
  try
    Context.run ⟨shared, report, library⟩ c
    return ExitCode.success
  catch f => reportFailure report f

/-- Runs a command line, with its exit code. -/
def runLine [Platform] (library : Library) (terminal : Bool) (args : List String) : RunM Int := do
  match Line.read args with
  | .version =>
    RunM.present [.out (programName ++ " " ++ programVersion ++ "\n")]
    return ExitCode.success
  | .help =>
    RunM.act .help
    return ExitCode.success
  | .nothing =>
    RunM.act .help
    return ExitCode.usage
  | .misuse =>
    RunM.act .usage
    return ExitCode.usage
  | .command shared c => runCommand library terminal shared c

end RouteSchema.Cli
