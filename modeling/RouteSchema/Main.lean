import RouteSchema.Cli.Commands
import RouteSchema.Platform.Usual

/-!
# The program

Reads what a run needs from the system, runs the command line, and shows the trace. The program
holds no modules with schemas, has no connection to a network, so that every request fails, and
knows no styled terminal.

* `main` is the program.
-/

namespace RouteSchema.Program

/-- What the program stands on. -/
instance : Platform := .usual

/-! ## Reading -/

/-- The variables of the environment. -/
def readVariables : IO (Assoc String String) := do
  let bytes ← try IO.FS.readBinFile "/proc/self/environ" catch _ => pure ByteArray.empty
  let settings := (bytes.toList.splitOn 0).filterMap fun setting =>
    let name := setting.takeWhile (· != 61)
    if name.isEmpty || name.length == setting.length then none
    else
      let value := setting.drop (name.length + 1)
      some (Charset.decodeLossy name .utf8, Charset.decodeLossy value .utf8)
  return Assoc.ofList settings

/-- Adds the file of a name to a world, if there is one. -/
def readFile (w : World) (name : FileName) : IO World := do
  try return w.write name (← IO.FS.readBinFile (w.directory.below name).toString).toList
  catch _ => return w

mutual

/-- The texts in a value. -/
def textsIn : Value → List String
  | .text s => [s]
  | .list items | .tuple items | .set items => textsInAll items
  | .dict entries => textsInEntries entries
  | _ => []

/-- The texts in a list of values. -/
def textsInAll : List Value → List String
  | [] => []
  | v :: vs => textsIn v ++ textsInAll vs

/-- The texts in the values of entries. -/
def textsInEntries : List (Value × Value) → List String
  | [] => []
  | (_, v) :: es => textsIn v ++ textsInEntries es

end

/-- The files that a source may refer to: those that the texts of its document name. -/
def mentioned (w : World) (source : String) : List FileName :=
  match ((Load.fromFile source).run.run { world := w }).1 with
  | .error _ => []
  | .ok v => (textsIn v).filterMap fun s =>
      ((Source.expandHome (.ofString s)).run.run w).1.toOption

/-- The world of a command line: the environment, the project file, the files that arguments name,
and those that these mention. -/
def readWorld (args : List String) : IO World := do
  let directory := FileName.ofString (← IO.currentDir).toString
  let start : World := { directory, «variables» := ← readVariables, files := [] }
  let named ← ((Settings.projectName :: args).map FileName.ofString).foldlM readFile start
  (args.flatMap (mentioned named)).foldlM readFile named

/-- The answer to every request. -/
def unreachable : Http.Exchange := .fault .connect "no network"

/-- A command line with colour off. -/
def withoutColour (args : List String) : List String :=
  if args.isEmpty then [] else "--no-color" :: args

/-- The run of a command line before it starts. -/
def readRun (args : List String) : IO Run := do
  let input ← if args.contains "-" then
      try pure (.ok (← (← IO.getStdin).readToEnd)) catch e => pure (.error (toString e))
    else pure (.ok "")
  return { world := ← readWorld args, script := [unreachable], page := unreachable, input }

/-! ## Showing -/

/-- The help. -/
def helpText : String :=
  "Usage: " ++ Cli.programName ++ " [OPTIONS] COMMAND [ARGS]...\n\nCommands:\n" ++
    "  endpoints SCHEMA     list the endpoints of a schema\n" ++
    "  show SCHEMA ID       show an endpoint with its values\n" ++
    "  call SCHEMA ID       call an endpoint\n"

/-- Shows an act of a run. -/
def showAct : Act → IO Unit
  | .showing (.out s) => IO.print s
  | .showing (.err s) => IO.eprint s
  | .log channel message => IO.eprint (channel ++ ": " ++ message ++ "\n")
  | .help => IO.print helpText
  | .usage => IO.eprint helpText
  | _ => pure ()

end RouteSchema.Program

/-- The program. -/
def main (args : List String) : IO UInt32 := do
  let run ← RouteSchema.Program.readRun args
  let line := RouteSchema.Program.withoutColour args
  let (result, after) := (RouteSchema.Cli.runLine [] false line).run.run run
  for act in after.trace do RouteSchema.Program.showAct act
  match result with
  | .ok code => return code.toNat.toUInt32
  | .error failure => return failure.exitCode.toNat.toUInt32
