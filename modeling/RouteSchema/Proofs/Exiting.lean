import RouteSchema.Proofs.Halting

/-!
# Exit codes of calls

A call that a stage stops exits with the code of the stage. A call that is sent exits with the code
for its last answer: the response or fault that no further attempt follows. An answer that leads to
no result, or to one that cannot be shown, is an accident.

* `ExitsWith` gives the exit code for an answer that leads to a result, and `Concludes` that for the
  decisive answer, whatever it is.
* `ends_of_ready` and `exits_of_ready`: how a call ends that no stage stops.
* `call_exits`: the exit code of a call, and what is sent and connected on every path.
-/

namespace RouteSchema.Cli

open Stateful Http

/-! ## Failures and exit codes -/

/-- The exit code of a result. -/
def exitCode : Except Failure Unit → Int
  | .ok _ => ExitCode.success
  | .error f => f.exitCode

theorem exitCode_of_coded {code : Int} {f : Failure} (h : Coded code f)
    (own : f.exitCode?.isSome = true) : f.exitCode = code := by
  obtain ⟨c, coded⟩ := Option.isSome_iff_exists.1 own
  rw [Failure.exitCode, coded, Option.getD_some, h c coded]

/-- How a failure is accounted for: one of the library by its wording, any other is described
before it is worded. -/
def account (report : Report) (f : Failure) : List Act :=
  match f.exitCode? with
  | some _ => (report.error f.message).map .showing
  | none => .crash f :: (report.error ("Unexpected error: " ++ f.message)).map .showing

theorem adds_reportFailure (report : Report) (f : Failure) (s : Run) :
    RunM.Adds (reportFailure report f) s (.ok f.exitCode) (account report f) := by
  unfold RunM.Adds reportFailure account Failure.exitCode
  cases f.exitCode? with
  | some code => rfl
  | none =>
    rw [outcome_bind_ok (RunM.outcome_act s (.crash f)),
      outcome_bind_ok (RunM.outcome_present _ _)]
    dsimp only [outcome_pure, Option.getD_none]
    rw [List.append_assoc, List.singleton_append]

theorem idle_account (report : Report) (f : Failure) : ∀ a ∈ account report f, Act.Idle a := by
  have shown : ∀ text, ∀ a ∈ (report.error text).map Act.showing, Act.Idle a := by
    intro text a ha
    obtain ⟨_, -, rfl⟩ := List.mem_map.1 ha
    exact ⟨rfl, rfl⟩
  unfold account
  split
  · exact shown _
  · exact List.forall_mem_cons.2 ⟨⟨rfl, rfl⟩, shown _⟩

/-- What a command line adds to what its command does: it accounts for a failure. -/
def conclusion (report : Report) : Except Failure Unit → List Act
  | .ok _ => []
  | .error f => account report f

section

variable [Platform]

variable {x : Context} {i : Invocation} {s s' : Run} {p : Preparation}

/-! ## Answers and exit codes -/

/-- The exit code for the last answer to a call, where that leads to a result. A response below 400
means success, but for one that cannot be shown. -/
inductive ExitsWith (report : Report) : Exchange → Int → Prop
  | success {r : Response} (status : r.status < 400) (legible : Legible report r) :
      ExitsWith report (.reply r) 0
  | illegible {r : Response} (status : r.status < 400) (illegible : ¬Legible report r) :
      ExitsWith report (.reply r) 1
  | authentication {r : Response} (status : r.status = 401 ∨ r.status = 403) :
      ExitsWith report (.reply r) 3
  | notFound {r : Response} (status : r.status = 404) : ExitsWith report (.reply r) 4
  | server {r : Response} (status : 500 ≤ r.status) : ExitsWith report (.reply r) 5
  | refusal {r : Response} (status : 400 ≤ r.status) (below : r.status < 500)
      (other : r.status ≠ 401 ∧ r.status ≠ 403 ∧ r.status ≠ 404) : ExitsWith report (.reply r) 1
  | exhaustion {kind : NetworkFault} {detail : String} (transport : kind.isTransport = true) :
      ExitsWith report (.fault kind detail) 6

/-- The exit code of a call for its decisive answer and its position. An answer that leads to no
result is an accident. -/
inductive Concludes (report : Report) (retries position : Nat) (e : Exchange) : Int → Prop
  | result {code : Int} (conclusive : Conclusive retries position e) (h : ExitsWith report e code) :
      Concludes report retries position e code
  | accident (inconclusive : ¬Conclusive retries position e) :
      Concludes report retries position e 1

/-- A call that was answered exits with the code for the answer. -/
theorem exitsWith_of_decides {report : Report} {id : String} {attempts : Nat} {e : Exchange}
    {result : Except Failure Response} {shown : Except Failure Unit}
    (h : Decides id attempts e result) (shows : Shows report result shown) :
    ExitsWith report e (exitCode shown) := by
  cases h with
  | success status =>
    cases shows with
    | legible legible => exact .success status legible
    | illegible illegible uncoded =>
      rw [exitCode, Failure.exitCode, uncoded]
      exact .illegible status illegible
  | @refusal r message status =>
    cases shows
    show ExitsWith report (.reply r) (ExitCode.ofStatus (some r.status))
    unfold ExitCode.ofStatus
    dsimp only
    split
    · exact .authentication ‹_›
    split
    · exact .notFound ‹_›
    split
    · exact .server ‹_›
    · exact .refusal status (by omega) (by omega)
  | exhaustion transport =>
    cases shows
    exact .exhaustion transport

/-- A call exits with the code for its decisive answer, whatever that is. -/
theorem concludes_of_settles {report : Report} {id : String} {retries position : Nat} {e : Exchange}
    {settled : Except Failure (Except Failure Response)} {shown : Except Failure Unit}
    (settles : Settles id retries position e settled) (shows : Shows report (answered settled) shown) :
    Concludes report retries position e (exitCode shown) := by
  by_cases conclusive : Conclusive retries position e
  · obtain ⟨decided, rfl, decides⟩ := settles.exists_result_iff.2 conclusive
    exact .result conclusive (exitsWith_of_decides decides shows)
  · cases settled with
    | ok decided =>
      exact absurd (settles.exists_result_iff.1 ⟨decided, rfl, settles.decides⟩) conclusive
    | error f =>
      cases shows
      have one : exitCode (.error f) = 1 := by
        rw [exitCode, Failure.exitCode, settles.exitCode?]
        rfl
      exact one ▸ .accident conclusive

/-! ## Calls that are ready -/

/-- A known endpoint is called, and what it is answered is shown. -/
theorem ends_proceed {result : Except Failure Response} {acts : List Act}
    (known : i.id ∈ p.compiled.ids)
    (h : RunM.Ends (Context.session p.compiled (x.dispatcher p.settings) i.id p.params p.options)
      (opened s p.settings.transport) result acts s') :
    ∃ shown s'', RunM.Ends (x.proceed i.id p) s shown
        (enclosed p.settings.transport acts ++ told x.report result) s'' ∧
      Shows x.report result shown := by
  cases result with
  | error f =>
    have ends := ends_proceed_error known h
    refine ⟨.error f, _, ⟨ends.ends, ?_⟩, .failure f⟩
    rw [told, List.append_nil]
    exact ends.grows
  | ok r =>
    have connected := ends_connected (d := x.dispatcher p.settings) h
    obtain ⟨shown, s'', answers, shows⟩ := ends_answer x r
      { s' with trace := s'.trace ++ [.closing] }
    have ends := connected.bind answers
    exact ⟨shown, s'', ⟨(outcome_proceed known s).trans ends.ends, ends.grows⟩, shows⟩

/-- What a ready call does: it makes the call inside a connection and shows the answer. -/
theorem ends_of_ready {r : Resolved} (h : Ready x i s p r) :
    ∃ address before log after, after.script = s.script ∧ (∀ a ∈ before, Act.Preparing a) ∧
      (∀ a ∈ log, Act.Preparing a) ∧
      ∀ {result acts s'}, RunM.Ends (Context.sent (x.dispatcher p.settings)
          ⟨r.id, r.dispatchAttributes, address, p.params, p.options⟩) after result acts s' →
        ∃ shown s'', RunM.Ends (x.run i.command) s shown (before ++
            enclosed p.settings.transport (log ++ acts) ++ told x.report result) s'' ∧
          Shows x.report result shown := by
  obtain ⟨⟨s₁, rs, w, prepares, materialized, member⟩, called, supplied⟩ := h
  obtain ⟨before, preparing, same, goes⟩ := ends_prepared prepares
  obtain ⟨address, log, after, preparing', same', calls⟩ := Context.ends_session_of_supplied
    (s := opened s₁ p.settings.transport) (x.readable p.settings) materialized member supplied
    (fun n _ => (texts_of_inputs prepares.inputs).1 n) p.options
  refine ⟨address, before, log, after, same'.trans same, preparing, preparing', fun ends => ?_⟩
  have inner := calls _ _ _ ends
  rw [called] at inner
  obtain ⟨shown, s'', proceeds, shows⟩ :=
    ends_proceed (known_of_member called materialized member) inner
  refine ⟨shown, s'', ?_, shows⟩
  rw [List.append_assoc]
  exact goes proceeds

/-- A request can be made of a ready call exactly if its headers are a mapping between texts and its
query is a mapping. -/
theorem requestable_of_ready {r : Resolved} (h : Ready x i s p r) (address : String) :
    Requestable (x.dispatcher p.settings)
        ⟨r.id, r.dispatchAttributes, address, p.params, p.options⟩ ↔
      TextMappable (Assoc.get? r.attributes "headers") ∧
        Mappable (Assoc.get? r.attributes "query") := by
  obtain ⟨_, _, _, prepares, -, -⟩ := h.prepares
  have own : r.dispatchAttributes.getText? "headers" = Assoc.get? r.attributes "headers" :=
    getText?_dispatchAttributes r (by decide)
  have query : r.dispatchAttributes.getText? "query" = Assoc.get? r.attributes "query" :=
    getText?_dispatchAttributes r (by decide)
  constructor
  · intro requestable
    exact ⟨own ▸ requestable.own, query ▸ requestable.query⟩
  · rintro ⟨headers, mappable⟩
    exact {
      pattern := ⟨_, x.readable p.settings⟩
      path := ⟨r.path, by rw [getText?_path_template, Option.getD_some]⟩
      method := by
        rw [getText?_method, Option.getD_some]
        exact Value.hasText_text _
      own := own ▸ headers
      called := (texts_of_inputs prepares.inputs).2
      query := query ▸ mappable }

/-- What is sent in a call is what is sent inside its connection. -/
theorem requests_of_called {before log acts : List Act} {t : Transport} {report : Report}
    {result : Except Failure Response} (preparing : ∀ a ∈ before, Act.Preparing a)
    (preparing' : ∀ a ∈ log, Act.Preparing a) :
    (before ++ enclosed t (log ++ acts) ++ told report result).filterMap Act.request? =
      acts.filterMap Act.request? := by
  rw [List.filterMap_append, List.filterMap_append, requests_enclosed, List.filterMap_append,
    requests_of_idle (idle_of_preparing preparing), requests_of_idle (idle_of_preparing preparing'),
    requests_of_idle (idle_told report result), List.append_nil, List.nil_append, List.nil_append]

/-- A ready call that no request can be made of sends nothing, and fails without an exit code of its
own. -/
theorem ends_of_not_sendable {r : Resolved} (h : Ready x i s p r)
    (unfit : ¬(TextMappable (Assoc.get? r.attributes "headers") ∧
      Mappable (Assoc.get? r.attributes "query"))) :
    ∃ f acts s', RunM.Ends (x.run i.command) s (.error f) acts s' ∧ f.exitCode? = none ∧
      acts.filterMap Act.request? = [] := by
  obtain ⟨address, before, log, after, -, preparing, preparing', runs⟩ := ends_of_ready h
  cases made : (x.dispatcher p.settings).request
    ⟨r.id, r.dispatchAttributes, address, p.params, p.options⟩ with
  | ok request =>
    exact absurd ((requestable_of_ready h address).1 (Dispatcher.exists_request_iff.1 ⟨_, made⟩))
      unfit
  | error f =>
    obtain ⟨noted, _, sends, preparing''⟩ := Dispatcher.ends_sent_of_error after made
    obtain ⟨shown, s', ends, shows⟩ := runs sends
    cases shows
    refine ⟨f, _, s', ends, Dispatcher.exitCode?_of_request (x.readable p.settings) made, ?_⟩
    rw [requests_of_called preparing preparing', requests_of_idle (idle_of_preparing preparing'')]

/-- How a ready call ends, and what it sends. -/
theorem exits_of_ready {r : Resolved} (h : Ready x i s p r) :
    ∃ shown acts s', RunM.Ends (x.run i.command) s shown acts s' ∧
      acts.filter Act.isConnection = [.opening p.settings.transport, .closing] ∧
      (∀ f, shown = .error f → PatternFree f) ∧
      (x.shared.dryRun = false →
        let sendable := TextMappable (Assoc.get? r.attributes "headers") ∧
          Mappable (Assoc.get? r.attributes "query")
        let retries := p.settings.transport.retries
        let position := decisive s.script retries
        (sendable → (acts.filterMap Act.request?).length = position + 1 ∧
          Concludes x.report retries position (answerAt s.script position) (exitCode shown)) ∧
        (¬sendable → acts.filterMap Act.request? = [] ∧ exitCode shown = 1)) := by
  obtain ⟨address, before, log, after, same, preparing, preparing', runs⟩ := ends_of_ready h
  have confined := Dispatcher.confined_sent (x.readable p.settings)
    ⟨r.id, r.dispatchAttributes, address, p.params, p.options⟩
  rcases answered : outcome (Context.sent (x.dispatcher p.settings)
    ⟨r.id, r.dispatchAttributes, address, p.params, p.options⟩) after with ⟨result, s'⟩
  obtain ⟨acts, sends, inner⟩ := confined.exists_ends answered
  obtain ⟨shown, s'', ends, shows⟩ := runs sends
  have idle := idle_of_preparing preparing
  have idle' := idle_of_preparing preparing'
  have idle'' := idle_told x.report result
  refine ⟨shown, _, s'', ends, ?_, ?_, fun sending => ?_⟩
  · have enclosing : ∀ a ∈ log ++ acts, Act.Inner a :=
      List.forall_mem_append.2 ⟨fun a ha => (idle' a ha).2, inner⟩
    rw [List.filter_append, List.filter_append, connections_enclosed enclosing,
      connections_of_idle idle, connections_of_idle idle'']
    rfl
  · rintro f rfl
    cases shows with
    | failure => exact confined.failures after f s' answered
    | illegible _ uncoded => exact patternFree_of_uncoded uncoded
  · refine ⟨fun sendable => ?_, fun unfit => ?_⟩
    · obtain ⟨request, made⟩ :=
        Dispatcher.exists_request_iff.2 ((requestable_of_ready h address).2 sendable)
      obtain ⟨_, _, _, sends', length, settles⟩ := Dispatcher.ends_sent after sending made
      rw [same] at length settles
      obtain ⟨rfl, rfl, -⟩ := sends'.unique sends
      rw [requests_of_called preparing preparing']
      exact ⟨length, concludes_of_settles settles shows⟩
    · obtain ⟨f, acts', _, ends', uncoded, silent⟩ := ends_of_not_sendable h unfit
      obtain ⟨rfl, rfl, -⟩ := ends.unique ends'
      refine ⟨silent, ?_⟩
      rw [exitCode, Failure.exitCode, uncoded]
      rfl

/-! ## Command lines -/

/-- The context of a command line in a run. -/
def Context.of (library : Library) (terminal : Bool) (shared : Shared) (s : Run) : Context where
  shared := shared
  report := Report.of (formOf shared) shared.noColour shared.quiet shared.verbose terminal
    s.world.variables
  library := library

/-- A command line runs its command, and accounts for its failure. -/
theorem outcome_runLine (library : Library) (terminal : Bool) {args : List String} {shared : Shared}
    {c : Command} (line : Line.read args = .command shared c) (s : Run) :
    outcome (runLine library terminal args) s =
      match outcome ((Context.of library terminal shared s).run c) s with
        | (.ok _, s') => (.ok ExitCode.success, s')
        | (.error f, s') =>
          outcome (reportFailure (Context.of library terminal shared s).report f) s' := by
  rw [runLine, line]
  show outcome (runCommand library terminal shared c) s = _
  rw [runCommand, outcome_bind_ok (RunM.outcome_get s)]
  show outcome (tryCatch ((Context.of library terminal shared s).run c >>= _) _ >>= _) s = _
  rw [outcome_bind, RunM.outcome_tryCatch, outcome_bind]
  rcases outcome ((Context.of library terminal shared s).run c) s with ⟨f | _, s'⟩
  · dsimp only [Context.of]
    rw [outcome_bind]
    generalize outcome (reportFailure _ f) s' = reported
    rcases reported with ⟨_ | _, _⟩ <;> rfl
  · rfl

/-- A command line exits with the code of the result of its command, and accounts for a failure. -/
theorem concludes_runLine {library : Library} {terminal : Bool} {args : List String}
    {shared : Shared} {c : Command} {result : Except Failure Unit} {acts : List Act}
    (line : Line.read args = .command shared c)
    (h : RunM.Ends ((Context.of library terminal shared s).run c) s result acts s') :
    let added := conclusion (Context.of library terminal shared s).report result
    RunM.Ends (runLine library terminal args) s (.ok (exitCode result)) (acts ++ added)
      { s' with trace := s'.trace ++ added } := by
  have commanded := outcome_runLine library terminal line s
  rw [h.ends] at commanded
  refine ⟨?_, by rw [h.grows, List.append_assoc]⟩
  cases result with
  | ok => rw [commanded, conclusion, List.append_nil]; rfl
  | error f => exact commanded.trans (adds_reportFailure _ f s')

theorem adds_runLine {library : Library} {terminal : Bool} {args : List String} {shared : Shared}
    {c : Command} {result : Except Failure Unit} {acts : List Act}
    (line : Line.read args = .command shared c)
    (h : RunM.Adds ((Context.of library terminal shared s).run c) s result acts) :
    RunM.Adds (runLine library terminal args) s (.ok (exitCode result))
      (acts ++ conclusion (Context.of library terminal shared s).report result) := by
  rw [RunM.Adds, (concludes_runLine line h.ends).ends, List.append_assoc]

/-- A command line exits with the code of the result of its command, which is reported. -/
theorem ends_runLine {library : Library} {terminal : Bool} {args : List String} {shared : Shared}
    {c : Command} {result : Except Failure Unit} {acts : List Act}
    (line : Line.read args = .command shared c)
    (h : RunM.Ends ((Context.of library terminal shared s).run c) s result acts s') :
    ∃ more s'', RunM.Ends (runLine library terminal args) s (.ok (exitCode result))
      (acts ++ more) s'' ∧ ∀ a ∈ more, Act.Idle a := by
  refine ⟨_, _, concludes_runLine line h, ?_⟩
  cases result with
  | ok => exact List.forall_mem_nil _
  | error f => exact idle_account _ f

end

/-! ## A board -/

/-- A library with a board in it. -/
def boards : Library := [("m", [("t", .tree board)])]

/-- A run in a world with some variables, with some answers to come. -/
def visit (environ : Assoc String String) (script : List Exchange) : Run where
  world := ⟨⟨"/", []⟩, environ, [], fun _ => 0, fun _ => none⟩
  script := script

/-- The options of a command line that asks for JSON. -/
def asJson : Shared := ⟨true, false, false, false, false, false, none, none⟩

/-- A call that looks at the board. -/
def viewing : Invocation := ⟨"m:t", "view", [], [], none⟩

theorem read_viewing :
    Line.read ["--json", "call", "m:t", "view"] = .command asJson viewing.command := by
  decide +kernel

/-- What is at hand for a look at the board. -/
def preparation : Preparation where
  params := []
  options := [(.text "headers", .dict [])]
  settings := ⟨.usual, none, {}⟩
  compiled := ⟨board, boardTable, board_flatten⟩

/-- The endpoint that is looked at. -/
def viewed : Resolved where
  id := "view"
  path := Path.join "https://svc.com" ["threads"]
  method := .get
  attributes := [("lang", .text "en")]

theorem tree_of_entry (tree : SchemaTree) :
    Library.tree [("m", [("t", .tree tree)])] "m:t" = .ok tree := by
  have path : Library.splitReference "m:t" = ("m", "t") := by decide +kernel
  rw [Library.tree, path]
  rfl

theorem outcome_compiled_of_tree [Platform] {library : Library} {tree : SchemaTree} {c : Compiled}
    (found : library.tree "m:t" = .ok tree) (compiled : Compiled.ofTree tree = .ok c)
    (environ : Assoc String String) (script : List Exchange) :
    outcome ((Context.of library false asJson (visit environ script)).compiled "m:t"
      ⟨.usual, none, {}⟩) (visit environ script) = (.ok c, visit environ script) := by
  have source : Library.isReference "m:t" = true := by decide +kernel
  have absent : outcome (RunM.ofEval (Eval.entry? (.ofString "m:t"))) (visit environ script) =
      (.ok none, visit environ script) := rfl
  have taken : outcome ((Context.of library false asJson (visit environ script)).tree "m:t")
      (visit environ script) = (.ok tree, visit environ script) := by
    rw [Context.tree, if_pos source, outcome_bind_ok absent]
    show (library.tree "m:t", _) = _
    rw [found]
  have placed : outcome ((Context.of library false asJson (visit environ script)).placedTree "m:t"
      ⟨.usual, none, {}⟩) (visit environ script) = (.ok tree, visit environ script) :=
    outcome_bind_ok taken _
  rw [Context.compiled, outcome_bind_ok placed, compiled]
  rfl

theorem outcome_compiled_boards [Platform] (environ : Assoc String String) (script : List Exchange) :
    outcome ((Context.of boards false asJson (visit environ script)).compiled "m:t"
      preparation.settings) (visit environ script) =
        (.ok preparation.compiled, visit environ script) :=
  outcome_compiled_of_tree (tree_of_entry board) (Compiled.ofTree_of_flatten board_flatten)
    environ script

theorem supplied_of_names_eq_nil {pattern : Pattern} {path : String} {params : Dict}
    (none : pattern.names path = []) : ∀ n ∈ pattern.names path, Supplied params n :=
  none ▸ List.forall_mem_nil _

/-- Where nothing is set, the settings are the usual ones. -/
theorem settings_of_unset {x : Context} {s : Run}
    (unset : @outcome _ _ _ (@Context.settings .usual x) s = (@Settings.ofEntries .usual [] [], s)) :
    outcome (@Context.settings .usual x) s = (.ok ⟨.usual, none, {}⟩, s) := by
  let _ : Platform := .usual
  have usual : Settings.ofEntries [] [] = .ok ⟨.usual, none, {}⟩ := by
    show (do
      let pattern ← Pattern.of (.source Pattern.usualSource)
      return { pattern, address := none, transport := {} }) = (_ : Except Failure Settings)
    rw [Pattern.of_usualSource rfl]
    rfl
  rw [unset, usual]

/-- With a token, a look at the board is ready. -/
theorem ready_viewing (script : List Exchange) :
    @Ready .usual (Context.of boards false asJson (visit [("TOKEN", "abc")] script)) viewing
      (visit [("TOKEN", "abc")] script) preparation viewed :=
  let _ : Platform := .usual
  { prepares := ⟨_, _, _, ⟨rfl, _, settings_of_unset rfl, outcome_compiled_boards _ script⟩, rfl,
      List.mem_cons_self⟩
    called := rfl
    supplied := supplied_of_names_eq_nil (by decide +kernel) }

end RouteSchema.Cli
