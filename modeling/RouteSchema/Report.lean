import RouteSchema.World

/-!
# Reports

What a command shows: data on the standard output, messages on the standard error. Data is written
as JSON, as plain lines, or for a styled terminal; messages are styled unless colour is off. Data
is shown step by step, and a step may fail: a value may have no text, and the output may refuse it.

* `Report.response` shows data of any shape, and `Report.table` a table.
* `Report.escape` keeps a text from being taken for markup.
-/

namespace RouteSchema

/-- The forms of data. -/
inductive DataForm
  | json
  | plain
  | styled
  deriving DecidableEq, Repr

/-- How a command shows things. -/
structure Report where
  form : DataForm
  colourless : Bool
  quiet : Bool
  verbose : Bool
  deriving DecidableEq, Repr

namespace Report

/-- Whether the environment asks for no colour: by `NO_COLOR`, whatever its value, or by a dumb
terminal. -/
def refusesColour (environ : Assoc String String) : Bool :=
  (Assoc.get? environ "NO_COLOR").isSome || Assoc.get? environ "TERM" == some "dumb"

/-- The report for preferences. Without a form of its own, data is styled on a terminal with colour
and plain elsewhere. -/
def of (form : Option DataForm) (noColour quiet verbose terminal : Bool)
    (environ : Assoc String String) : Report :=
  let colourless := noColour || refusesColour environ
  { form := form.getD (if terminal && !colourless then .styled else .plain)
    colourless, quiet, verbose }

/-! ## Messages -/

/-- The characters that a tag begins with. -/
def beginsTag (c : Char) : Bool := ('a' ≤ c && c ≤ 'z') || c == '#' || c == '/' || c == '@'

/-- Whether a text begins with a tag in brackets. -/
def isTag : List Char → Bool
  | '[' :: c :: cs => beginsTag c && (cs.find? fun d => d == '[' || d == ']') == some ']'
  | _ => false

/-- A text in which tags do not count: the backslashes before a tag are doubled, and one is added.
`slashes` counts those passed. -/
def escapeTags (slashes : Nat) : List Char → List Char
  | [] => List.replicate slashes '\\'
  | c :: cs =>
    if c == '\\' then escapeTags (slashes + 1) cs
    else
      let count := if isTag (c :: cs) then 2 * slashes + 1 else slashes
      List.replicate count '\\' ++ c :: escapeTags 0 cs

/-- A text that stands for itself in markup. A single backslash at the end is doubled, since it
would reach into what follows. -/
def escape (s : String) : String :=
  let escaped := escapeTags 0 s.toList
  let final := match escaped.reverse with
    | '\\' :: '\\' :: _ => escaped
    | '\\' :: _ => escaped ++ ['\\']
    | _ => escaped
  String.ofList final

/-- Shows a message. -/
def message (r : Report) (plain markup : String) : List Shown :=
  if r.colourless then [.err (plain ++ "\n")] else [.styledErr (.text markup)]

/-- Shows an informational message, unless quiet. -/
def info (r : Report) (text : String) : List Shown :=
  if r.quiet then [] else r.message text (escape text)

/-- Shows a warning. -/
def warning (r : Report) (text : String) : List Shown :=
  r.message ("Warning: " ++ text) ("[yellow]Warning:[/yellow] " ++ escape text)

/-- Shows an error. -/
def error (r : Report) (text : String) : List Shown :=
  r.message ("Error: " ++ text) ("[bold red]Error:[/bold red] " ++ escape text)

/-- Shows a message for debugging, if verbose. -/
def debug (r : Report) (text : String) : List Shown :=
  if r.verbose then
    r.message ("[debug] " ++ text) ("[dim]\\[debug] " ++ escape text ++ "[/dim]")
  else []

/-! ## Data -/

/-- Shows a line of data. -/
def line (text : String) : Shown := .out (text ++ "\n")

variable [Platform]

/-- Hands something to the standard output. -/
def put (shown : Shown) : Except Failure Shown :=
  match Platform.refuses shown with
  | some breakdown => .error (.broken breakdown)
  | none => .ok shown

/-- The plain line of an entry: its key and its value with a tab between. -/
def entryLine (e : Value × Value) : Except Failure String := do
  return (← e.1.asText) ++ "\t" ++ (← e.2.asText)

/-- The plain line of an item of a list, with tabs between the values of a dictionary. -/
def itemLine : Value → Except Failure String
  | .dict entries => ((Assoc.values entries).mapM Value.asText).map (Value.joined "\t")
  | item => item.asText

/-- Data as plain lines: the entries of a dictionary, the items of a list, or any other value. -/
def plainLines : Value → List (Except Failure String)
  | .dict entries => entries.map entryLine
  | .list items => items.map itemLine
  | v => [v.asText]

/-- What is shown in front of the first step that fails. -/
def leading : List (Except Failure Shown) → List Shown
  | .ok shown :: steps => shown :: leading steps
  | _ => []

/-- Data as it is shown in JSON and styled form: a text counts as the JSON value it writes, and one
that writes none stays as it is. -/
def parsed (data : Value) : Except Failure (Value × Bool) :=
  match data with
  | .text s =>
    match Json.readAt .report s with
    | .ok v => .ok (v, true)
    | .error fault =>
      match fault.failure? s with
      | some failure => .error failure
      | none => .ok (data, false)
  | v => .ok (v, true)

/-- Data as one text of JSON, or the text that it is. -/
def jsonText (data : Value) : Except Failure String := do
  let (v, isJson) ← parsed data
  if isJson then Json.writeText .indented v else return v.display

/-- Data for a styled terminal: containers as JSON, other values as markup. -/
def styledData (data : Value) : Except Failure Styled := do
  let (v, _) ← parsed data
  match v with
  | .dict _ | .list _ => return .code (← Json.writeText .indented v)
  | _ => return .text (← v.asText)

/-- Data in a form, before it is handed to the output: plain lines come one by one. -/
def drafts (form : DataForm) (data : Value) : List (Except Failure Shown) :=
  match form with
  | .plain => (plainLines data).map fun s => s.map line
  | .json => [(jsonText data).map line]
  | .styled => [(styledData data).map .styledOut]

/-- The steps that show data. -/
def responseSteps (r : Report) (data : Value) : List (Except Failure Shown) :=
  (drafts r.form data).map fun draft => draft.bind put

/-- What is shown of data. -/
def response (r : Report) (data : Value) : Except Failure (List Shown) :=
  (r.responseSteps data).mapM id

/-- A row filled up with empty cells. -/
def filled (width : Nat) (row : List String) : List String :=
  row ++ List.replicate (width - row.length) ""

/-- The record of a row: its cells by heading. -/
def record (headings row : List String) : Value :=
  .dict (Assoc.ofList ((headings.zip row).map fun (h, cell) => (.text h, .text cell)))

/-- A table for a styled terminal. -/
def styledTable (headings : List String) (rows : List (List String)) (title : Option String) :
    Styled :=
  let width := (rows.map List.length).foldl max headings.length
  .table title (filled width headings) (rows.map (filled width))

/-- The steps that show a table. -/
def tableSteps (r : Report) (headings : List String) (rows : List (List String))
    (title : Option String) : List (Except Failure Shown) :=
  match r.form with
  | .json =>
    let records := Value.list (rows.map (record headings))
    [((Json.write .indented records).mapError Json.WriteFault.failure).bind fun s => put (line s)]
  | .plain => (headings :: rows).map fun row => put (line (Value.joined "\t" row))
  | .styled => [put (.styledOut (styledTable headings rows title))]

/-- What is shown of a table. -/
def table (r : Report) (headings : List String) (rows : List (List String))
    (title : Option String) : Except Failure (List Shown) :=
  (r.tableSteps headings rows title).mapM id

end Report

end RouteSchema
