import RouteSchema.Proofs.Performing
import RouteSchema.Proofs.Showing

/-!
# Halting calls

A command line that calls an endpoint passes through stages: its parameters and options are read,
the settings computed, the schema loaded and compiled, the identifier looked up, every endpoint
resolved, and the parameters of the path demanded. Only then the call is sent.

* `Halts` says which stage fails first, and `Ready` that none does: `halts_or_ready`.
* `Halts.coded`: every stage has its exit code.
* `ends_of_halts`: what a call has done that a stage stops.
-/

namespace RouteSchema.Cli

open Stateful Http

/-- What a command line asks for that calls an endpoint. -/
structure Invocation where
  source : String
  id : String
  params : List String
  headers : List String
  body : Option String

/-- What a call has at hand once its schema is compiled. -/
structure Preparation where
  params : Dict
  options : Dict
  settings : Settings
  compiled : Compiled

/-! ## Stages -/

/-- The stages that a call passes before it is sent. -/
inductive Stage
  | inputs
  | settings
  | schema
  | identifier
  | resolution
  | parameter
  deriving DecidableEq

namespace Stage

/-- The exit code of a call that fails in a stage. -/
def code : Stage → Int
  | .inputs => 2
  | .settings => 1
  | .schema => 7
  | .identifier => 2
  | .resolution => 8
  | .parameter => 2

/-- Whether there is a connection in a stage. -/
def isConnected : Stage → Bool
  | .resolution | .parameter => true
  | _ => false

end Stage

/-! ## Acts of a call -/

theorem requests_of_idle {acts : List Act} (h : ∀ a ∈ acts, Act.Idle a) :
    acts.filterMap Act.request? = [] :=
  List.filterMap_eq_nil_iff.2 fun a ha => (h a ha).1

theorem connections_of_inner {acts : List Act} (h : ∀ a ∈ acts, Act.Inner a) :
    acts.filter Act.isConnection = [] :=
  List.filter_eq_nil_iff.2 fun a ha => Bool.eq_false_iff.1 (h a ha)

theorem connections_of_idle {acts : List Act} (h : ∀ a ∈ acts, Act.Idle a) :
    acts.filter Act.isConnection = [] :=
  connections_of_inner fun a ha => (h a ha).2

/-- What a connection encloses, with the opening in front and the closing behind. -/
def enclosed (t : Transport) (acts : List Act) : List Act := .opening t :: (acts ++ [.closing])

/-- What holds of opening and closing a connection, and of all that is done in between, holds of the
whole. -/
theorem forall_mem_enclosed {P : Act → Prop} {t : Transport} {acts : List Act}
    (opening : P (.opening t)) (closing : P .closing) (inner : ∀ a ∈ acts, P a) :
    ∀ a ∈ enclosed t acts, P a :=
  List.forall_mem_cons.2
    ⟨opening, List.forall_mem_append.2 ⟨inner, List.forall_mem_singleton.2 closing⟩⟩

theorem requests_enclosed (t : Transport) (acts : List Act) :
    (enclosed t acts).filterMap Act.request? = acts.filterMap Act.request? := by
  rw [enclosed, List.filterMap_cons_none rfl, List.filterMap_append]
  exact List.append_nil _

theorem connections_enclosed {t : Transport} {acts : List Act} (h : ∀ a ∈ acts, Act.Inner a) :
    (enclosed t acts).filter Act.isConnection = [.opening t, .closing] := by
  rw [enclosed, List.filter_cons_of_pos rfl, List.filter_append, connections_of_inner h]
  rfl

/-- A run with a connection just opened. -/
def opened (s : Run) (t : Transport) : Run := { s with trace := s.trace ++ [.opening t] }

theorem ends_connected {α : Type} {s s' : Run} {d : Dispatcher} {step : RunM α}
    {result : Except Failure α} {acts : List Act}
    (h : RunM.Ends step (opened s d.transport) result acts s') :
    RunM.Ends (d.connected step) s result (enclosed d.transport acts)
      { s' with trace := s'.trace ++ [.closing] } where
  ends := by
    have inner : outcome step { s with trace := s.trace ++ [.opening d.transport] } =
        (result, s') := h.ends
    rw [Dispatcher.connected, outcome_bind_ok (RunM.outcome_act _ _), RunM.outcome_ensuring_act,
      inner]
  grows := by
    show s'.trace ++ [.closing] = _
    rw [h.grows, enclosed, opened, List.append_assoc, List.append_assoc]
    rfl

/-- What a call adds to the trace that a stage stops: no request, and no connection but in the
stages after the identifier is looked up, where one is opened and closed. -/
structure Stopped (stage : Stage) (acts : List Act) : Prop where
  requests : acts.filterMap Act.request? = []
  connections : ∃ transport, acts.filter Act.isConnection =
    if stage.isConnected then [.opening transport, .closing] else []

theorem Stopped.of_idle {stage : Stage} {acts : List Act} (h : ∀ a ∈ acts, Act.Idle a)
    (early : stage.isConnected = false) : Stopped stage acts where
  requests := requests_of_idle h
  connections := ⟨{}, by rw [connections_of_idle h, early]; rfl⟩

theorem Stopped.of_enclosed {stage : Stage} {acts inner : List Act} (t : Transport)
    (h : ∀ a ∈ acts, Act.Idle a) (hinner : ∀ a ∈ inner, Act.Idle a)
    (late : stage.isConnected = true) : Stopped stage (acts ++ enclosed t inner) where
  requests := by
    rw [List.filterMap_append, requests_enclosed, requests_of_idle h, requests_of_idle hinner]
    rfl
  connections := ⟨t, by
    rw [List.filter_append, connections_of_idle h,
      connections_enclosed fun a ha => (hinner a ha).2, late]
    rfl⟩

theorem exists_called {c : Compiled} {w w' : World} {rs : List Resolved} {id : String}
    (known : id ∈ c.ids) (h : outcome c.materialize w = (.ok rs, w')) : ∃ r ∈ rs, r.id = id := by
  rw [c.ids_eq, ← ids_of_keeps (keeps_of_materialize h)] at known
  exact List.mem_map.1 known

theorem known_of_member {c : Compiled} {w w' : World} {rs : List Resolved} {r : Resolved}
    {id : String} (called : r.id = id) (h : outcome c.materialize w = (.ok rs, w'))
    (member : r ∈ rs) : id ∈ c.ids := by
  rw [c.ids_eq, ← ids_of_keeps (keeps_of_materialize h)]
  exact List.mem_map.2 ⟨r, member, called⟩

theorem coded_pairsRead {separator flag : String} {items : List String} {f : Failure}
    (h : Pairs.read separator flag items = .error f) : Coded 2 f := by
  rcases Outcome.bind_eq_error.1 h with h | ⟨pairs, -, ⟨⟩⟩
  obtain ⟨item, -, fails⟩ := Outcome.exists_of_mapM_eq_error h
  have bad : f = Pairs.badItem separator flag item := by
    unfold Pairs.pair at fails
    dsimp only at fails
    repeat' split at fails
    all_goals cases fails
    all_goals rfl
  rw [bad]
  rintro _ ⟨⟩
  rfl

theorem exists_text_of_get?_textDict {m : Assoc String String} {key v : Value}
    (h : Assoc.get? (Context.textDict m) key = some v) : ∃ s, v = .text s := by
  induction m with
  | nil => cases h
  | cons e m ih =>
    rw [Context.textDict, List.map_cons, Assoc.get?] at h
    split at h
    · exact ⟨e.2, (Option.some.inj h).symm⟩
    · exact ih h

variable [Platform]

/-! ## Invocations -/

namespace Invocation

def command (i : Invocation) : Command := .call i.source i.id i.params i.headers i.body

/-- The parameters and the options of the call. -/
def inputs (i : Invocation) : Except Failure (Dict × Dict) := do
  let params ← Pairs.read "=" "--param" i.params
  let headers ← Pairs.read ":" "--header" i.headers
  let body ← i.body.elim (.ok []) Context.bodyOption
  return (Context.textDict params, (.text "headers", .dict (Context.textDict headers)) :: body)

end Invocation

namespace Context

/-- The dispatcher of a call under settings. -/
def dispatcher (x : Context) (t : Settings) : Dispatcher where
  transport := t.transport
  dryRun := x.shared.dryRun
  pattern := .compiled t.pattern.source t.pattern.program
  report := x.report

/-- What a call does once its schema is compiled. -/
def proceed (x : Context) (id : String) (p : Preparation) : RunM Unit := do
  requireEndpoint p.compiled id
  let d := x.dispatcher p.settings
  let r ← d.connected (session p.compiled d id p.params p.options)
  x.answer r

theorem readable (x : Context) (t : Settings) :
    Pattern.of (x.dispatcher t).pattern = .ok t.pattern := by
  show Pattern.ofProgram t.pattern.source t.pattern.program = _
  rw [Pattern.ofProgram, dif_pos t.pattern.oneGroup]

theorem run_command (x : Context) (i : Invocation) : x.run i.command = (do
    let given ← RunM.ofExcept i.inputs
    let t ← x.settings
    let c ← x.compiled i.source t
    x.proceed i.id ⟨given.1, given.2, t, c⟩) := by
  show x.call i.source i.id i.params i.headers i.body = _
  rw [call, Invocation.inputs]
  cases Pairs.read "=" "--param" i.params with
  | error f => rfl
  | ok params =>
    cases Pairs.read ":" "--header" i.headers with
    | error f => rfl
    | ok headers =>
      cases i.body.elim (.ok []) bodyOption with
      | error f => rfl
      | ok body => rfl

end Context

/-! ## Parameters and headers of a command line -/

/-- What a command line gives for a name has a text. -/
theorem worded_textDict (m : Assoc String String) (name : Option String) :
    Worded (Context.textDict m) name := by
  have null : Value.HasText .null := ⟨rfl, rfl⟩
  unfold Worded Template.value Template.given?
  cases found : Assoc.get? (Context.textDict m) (nameValue name) with
  | none => exact null
  | some v =>
    obtain ⟨s, rfl⟩ := exists_text_of_get?_textDict found
    exact Value.hasText_text s

theorem textMappable_textDict (m : Assoc String String) :
    TextMappable (some (.dict (Context.textDict m))) := by
  rintro _ ⟨⟩ -
  refine ⟨_, rfl, List.forall_mem_map.2 fun e _ => ?_⟩
  exact ⟨Value.hasText_text e.1, Value.hasText_text e.2⟩

/-- The parameters of a command line have texts, and so have its headers. -/
theorem texts_of_inputs {i : Invocation} {params options : Dict}
    (h : i.inputs = .ok (params, options)) :
    (∀ name, Worded params name) ∧ TextMappable (options.getText? "headers") := by
  obtain ⟨given, -, h⟩ := Outcome.bind_eq_ok.1 h
  obtain ⟨headers, -, h⟩ := Outcome.bind_eq_ok.1 h
  obtain ⟨_, -, h⟩ := Outcome.bind_eq_ok.1 h
  cases h
  rw [Dict.getText?_cons, if_pos rfl]
  exact ⟨worded_textDict given, textMappable_textDict headers⟩

/-! ## How stages fail -/

section

variable (x : Context) (i : Invocation) (s : Run)

/-- The stages up to the compiled schema succeed, and leave a run. -/
structure Prepares (p : Preparation) (s' : Run) : Prop where
  inputs : i.inputs = .ok (p.params, p.options)
  schema : ∃ between, outcome x.settings s = (.ok p.settings, between) ∧
    outcome (x.compiled i.source p.settings) between = (.ok p.compiled, s')

/-- The stage that fails first, and how it fails. -/
inductive Halts : Stage → Failure → Prop
  | inputs {f : Failure} (fails : i.inputs = .error f) : Halts .inputs f
  | settings {given : Dict × Dict} {f : Failure} {s' : Run} (inputs : i.inputs = .ok given)
      (fails : outcome x.settings s = (.error f, s')) : Halts .settings f
  | schema {given : Dict × Dict} {t : Settings} {f : Failure} {between s' : Run}
      (inputs : i.inputs = .ok given) (settings : outcome x.settings s = (.ok t, between))
      (fails : outcome (x.compiled i.source t) between = (.error f, s')) : Halts .schema f
  | identifier {p : Preparation} {s' : Run} (prepares : Prepares x i s p s')
      (unknown : i.id ∉ p.compiled.ids) :
      Halts .identifier (.usage ("Unknown endpoint '" ++ i.id ++ "'. Run: " ++ programName ++
        " endpoints <schema>"))
  /-- Any endpoint of the schema can fail, not only the called one. -/
  | resolution {p : Preparation} {f : Failure} {s' : Run} {w : World}
      (prepares : Prepares x i s p s') (known : i.id ∈ p.compiled.ids)
      (fails : outcome p.compiled.materialize s'.world = (.error f, w)) : Halts .resolution f
  | parameter {p : Preparation} {s' : Run} {rs : List Resolved} {w : World} {r : Resolved}
      {name : Option String} (prepares : Prepares x i s p s')
      (materialized : outcome p.compiled.materialize s'.world = (.ok rs, w)) (member : r ∈ rs)
      (called : r.id = i.id)
      (missing : FirstMissing p.params (p.settings.pattern.names r.path) name) :
      Halts .parameter (.rejected i.id (nameValue name) .required)

/-- Every stage succeeds, and the endpoint called is resolved. -/
structure Ready (p : Preparation) (r : Resolved) : Prop where
  prepares : ∃ s' rs w, Prepares x i s p s' ∧
    outcome p.compiled.materialize s'.world = (.ok rs, w) ∧ r ∈ rs
  called : r.id = i.id
  supplied : ∀ n ∈ p.settings.pattern.names r.path, Supplied p.params n

end

variable {x : Context} {i : Invocation} {s s' : Run} {p : Preparation}

/-- Either a stage is the first to fail, or all of them succeed. -/
theorem halts_or_ready (x : Context) (i : Invocation) (s : Run) :
    (∃ stage f, Halts x i s stage f) ∨ ∃ p r, Ready x i s p r := by
  rcases inputs : i.inputs with f | ⟨params, options⟩
  · exact .inl ⟨_, f, .inputs inputs⟩
  rcases settings : outcome x.settings s with ⟨f | t, between⟩
  · exact .inl ⟨_, f, .settings inputs settings⟩
  rcases schema : outcome (x.compiled i.source t) between with ⟨f | c, s'⟩
  · exact .inl ⟨_, f, .schema inputs settings schema⟩
  have prepares : Prepares x i s ⟨params, options, t, c⟩ s' :=
    ⟨inputs, between, settings, schema⟩
  by_cases known : i.id ∈ c.ids
  · rcases materialized : outcome c.materialize s'.world with ⟨f | rs, w⟩
    · exact .inl ⟨_, f, .resolution prepares known materialized⟩
    obtain ⟨r, member, called⟩ := exists_called known materialized
    rcases firstMissing_or_supplied params (t.pattern.names r.path) with ⟨name, missing⟩ | supplied
    · exact .inl ⟨_, _, .parameter prepares materialized member called missing⟩
    · exact .inr ⟨_, r, ⟨s', rs, w, prepares, materialized, member⟩, called, supplied⟩
  · exact .inl ⟨_, _, .identifier prepares known⟩

/-! ## Failing stages -/

theorem coded_inputs {f : Failure} (h : i.inputs = .error f) : Coded 2 f := by
  rcases Outcome.bind_eq_error.1 h with h | ⟨params, -, h⟩
  · exact coded_pairsRead h
  rcases Outcome.bind_eq_error.1 h with h | ⟨headers, -, h⟩
  · exact coded_pairsRead h
  rcases Outcome.bind_eq_error.1 h with h | ⟨body, -, ⟨⟩⟩
  cases given : i.body with
  | none =>
    rw [given] at h
    cases h
  | some body =>
    rw [given, Option.elim_some, Context.bodyOption] at h
    split at h
    · cases h
    · rename_i fault _
      cases fault <;> cases h <;> exact .of_none rfl

theorem preparing_settings (x : Context) :
    RunM.Confined Act.Preparing (Coded ExitCode.general) x.settings :=
  .ofEval (coded_settings _ _)

/-- A stage fails with its exit code, or with a failure that has none of its own. -/
theorem Halts.coded {stage : Stage} {f : Failure} (h : Halts x i s stage f) :
    Coded stage.code f := by
  cases h with
  | inputs fails => exact coded_inputs fails
  | settings _ fails =>
    exact (preparing_settings x).failures s f _ fails
  | schema _ _ fails => exact (preparing_compiled x i.source _).failures _ f _ fails
  | identifier =>
    rintro _ ⟨⟩
    rfl
  | resolution _ _ fails =>
    obtain ⟨id, key, cause, rfl⟩ := resolution_of_materialize fails
    rintro _ ⟨⟩
    rfl
  | parameter =>
    rintro _ ⟨⟩
    rfl

/-- The steps up to the compiled schema send nothing and open no connection, and they leave the
answers to the call. -/
theorem ends_prepared (h : Prepares x i s p s') : ∃ acts, (∀ a ∈ acts, Act.Preparing a) ∧
    s'.script = s.script ∧ ∀ {result more s''},
      RunM.Ends (x.proceed i.id p) s' result more s'' →
        RunM.Ends (x.run i.command) s result (acts ++ more) s'' := by
  obtain ⟨inputs, between, settings, schema⟩ := h
  obtain ⟨acts, first, idle⟩ := (preparing_settings x).exists_ends settings
  obtain ⟨acts', second, idle'⟩ := (preparing_compiled x i.source p.settings).exists_ends schema
  have silent : ∀ a, Act.Preparing a → a.request? = none := fun a h => h.idle.1
  refine ⟨acts ++ acts', List.forall_mem_append.2 ⟨idle, idle'⟩, ?_, ?_⟩
  · rw [(preparing_compiled x i.source p.settings).script_of_ends second silent,
      (preparing_settings x).script_of_ends first silent]
  · intro result more s'' ends
    rw [x.run_command, inputs, List.append_assoc]
    exact (RunM.Ends.ofExcept _ s).bind (first.bind (second.bind ends))

/-- A known endpoint is called with a connection. -/
theorem outcome_proceed (known : i.id ∈ p.compiled.ids) (s : Run) :
    outcome (x.proceed i.id p) s = outcome ((x.dispatcher p.settings).connected
      (Context.session p.compiled (x.dispatcher p.settings) i.id p.params p.options) >>=
        x.answer) s := by
  have allowed : Context.requireEndpoint p.compiled i.id = pure () :=
    if_pos (List.contains_iff_mem.2 known)
  rw [Context.proceed, allowed]
  exact outcome_bind_ok (outcome_pure _ _) _

theorem ends_proceed_error {f : Failure} {acts : List Act} (known : i.id ∈ p.compiled.ids)
    (h : RunM.Ends (Context.session p.compiled (x.dispatcher p.settings) i.id p.params p.options)
      (opened s p.settings.transport) (.error f) acts s') :
    RunM.Ends (x.proceed i.id p) s (.error f) (enclosed p.settings.transport acts)
      { s' with trace := s'.trace ++ [.closing] } := by
  have connected := (ends_connected (d := x.dispatcher p.settings) h).bind_error x.answer
  exact ⟨(outcome_proceed known s).trans connected.ends, connected.grows⟩

theorem ends_of_halts {stage : Stage} {f : Failure} (h : Halts x i s stage f) :
    ∃ acts s', RunM.Ends (x.run i.command) s (.error f) acts s' ∧ Stopped stage acts := by
  have nothing : ∀ a ∈ ([] : List Act), Act.Idle a := List.forall_mem_nil _
  cases h with
  | inputs fails =>
    refine ⟨[], s, ?_, .of_idle nothing rfl⟩
    rw [x.run_command, fails]
    exact .bind_error (.ofExcept _ s) _
  | @settings given _ s' inputs fails =>
    obtain ⟨acts, ends, preparing⟩ := (preparing_settings x).exists_ends fails
    refine ⟨acts, s', ?_, .of_idle (idle_of_preparing preparing) rfl⟩
    rw [x.run_command, inputs]
    exact (RunM.Ends.ofExcept _ s).bind (ends.bind_error _)
  | @schema given t _ between s' inputs settings fails =>
    obtain ⟨acts, first, preparing⟩ := (preparing_settings x).exists_ends settings
    obtain ⟨acts', ends, preparing'⟩ := (preparing_compiled x i.source t).exists_ends fails
    refine ⟨acts ++ acts', s', ?_, .of_idle ?_ rfl⟩
    · rw [x.run_command, inputs]
      exact (RunM.Ends.ofExcept _ s).bind (first.bind (ends.bind_error _))
    · exact idle_of_preparing (List.forall_mem_append.2 ⟨preparing, preparing'⟩)
  | @identifier p s' prepares unknown =>
    obtain ⟨acts, preparing, -, goes⟩ := ends_prepared prepares
    refine ⟨acts ++ [], s', goes ?_, .of_idle ?_ rfl⟩
    rotate_left
    · rw [List.append_nil]
      exact idle_of_preparing preparing
    rw [Context.proceed, Context.requireEndpoint, if_neg (mt List.contains_iff_mem.1 unknown)]
    exact .bind_error (.throw _ s') _
  | @resolution p f s' w prepares known fails =>
    obtain ⟨acts, preparing, -, goes⟩ := ends_prepared prepares
    have inner := Context.ends_session_of_fails (d := x.dispatcher p.settings)
      (s := opened s' p.settings.transport) i.id p.params p.options fails
    exact ⟨_, _, goes (ends_proceed_error known inner),
      .of_enclosed _ (idle_of_preparing preparing) nothing rfl⟩
  | @parameter p s' rs w r name prepares materialized member called missing =>
    obtain ⟨acts, preparing, -, goes⟩ := ends_prepared prepares
    obtain ⟨log, s'', inner, idle'⟩ := Context.ends_session_of_missing
      (s := opened s' p.settings.transport) (x.readable p.settings) materialized member missing
      p.options
    rw [called] at inner
    exact ⟨_, _, goes (ends_proceed_error (known_of_member called materialized member) inner),
      .of_enclosed _ (idle_of_preparing preparing) idle' rfl⟩

end RouteSchema.Cli
