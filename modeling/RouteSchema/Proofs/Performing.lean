import RouteSchema.Proofs.Failing
import RouteSchema.Proofs.Generating
import RouteSchema.Proofs.Keying
import RouteSchema.Proofs.Rendering
import RouteSchema.Proofs.Retrying

/-!
# Performing calls

A command that calls an endpoint makes a client of the whole schema and performs one call with it.
The client can always be made once the schema is materialized; the call is rejected if the path
needs a parameter that is not given, and is sent otherwise.

* `ends_client`: the client of a materialized schema.
* `ends_perform_of_missing`, `outcome_perform_of_supplied`: what performing a call comes to.
* `PatternFree` says that a failure is no fault of a placeholder pattern: `confined_sent`.
* `Dispatcher.ends_sent`: a call is answered by what the decisive answer settles.
-/

namespace RouteSchema

open Stateful Http

/-- A failure is no fault of a placeholder pattern. -/
def PatternFree (f : Failure) : Prop := ∀ fault, f ≠ .config (.pattern fault)

/-- A name is the first among some that has no value among the parameters. -/
def FirstMissing (params : Dict) (names : List (Option String)) (name : Option String) : Prop :=
  ∃ before after, names = before ++ name :: after ∧ (∀ n ∈ before, Supplied params n) ∧
    ¬Supplied params name

/-- What is answered to a call: its result, or the fault that is raised. -/
def answered : Except Failure (Except Failure Response) → Except Failure Response
  | .ok result => result
  | .error f => .error f

/-! ## Required names -/

theorem find?_of_firstMissing {params : Dict} {names : List (Option String)} {name : Option String}
    (h : FirstMissing params names name) :
    names.find? (fun name => (Template.given? params name).isNone) = some name := by
  obtain ⟨before, after, rfl, supplied, absent⟩ := h
  refine List.find?_eq_some_iff_append.2 ⟨isNone_given?_iff.2 absent, before, after, rfl, ?_⟩
  intro n hn
  rw [Bool.not_eq_true', Bool.eq_false_iff, Ne, isNone_given?_iff, not_not]
  exact supplied n hn

theorem find?_of_supplied {params : Dict} {names : List (Option String)}
    (h : ∀ n ∈ names, Supplied params n) :
    names.find? (fun name => (Template.given? params name).isNone) = none :=
  List.find?_eq_none.2 fun n hn absent => isNone_given?_iff.1 absent (h n hn)

/-- Either some name is the first without a value, or all of them have one. -/
theorem firstMissing_or_supplied (params : Dict) (names : List (Option String)) :
    (∃ name, FirstMissing params names name) ∨ ∀ n ∈ names, Supplied params n := by
  induction names with
  | nil => exact .inr (List.forall_mem_nil _)
  | cons n names ih =>
    by_cases here : Supplied params n
    · rcases ih with ⟨name, before, after, rfl, supplied, absent⟩ | supplied
      · exact .inl ⟨name, n :: before, after, rfl, List.forall_mem_cons.2 ⟨here, supplied⟩, absent⟩
      · exact .inr (List.forall_mem_cons.2 ⟨here, supplied⟩)
    · exact .inl ⟨n, [], names, rfl, fun _ hm => absurd hm List.not_mem_nil, here⟩

/-! ## Functions that accept every parameter -/

section

variable {m : Type → Type} {ρ : Type} [Monad m] [LawfulMonad m]

theorem firstRefused?_of_accepting (params : Dict) :
    EndpointFunction.firstRefused? (m := m) (fun _ _ => pure true) params = pure none := by
  induction params with
  | nil => rfl
  | cons e rest ih =>
    rw [EndpointFunction.firstRefused?, pure_bind]
    exact ih

variable {f : EndpointFunction m ρ} {params : Dict}

theorem call_of_missing [Platform] {name : Option String} (h : FirstMissing params f.required name)
    (options : Dict) : f.call params options =
      pure (.error (.rejected f.endpoint.id (nameValue name) .required)) := by
  rw [EndpointFunction.call, EndpointFunction.rejection?, find?_of_firstMissing h]
  simp only [pure_bind]

theorem call_of_supplied_error [Platform] {failure : Failure}
    (accepting : f.capability.accepts = fun _ _ => pure true)
    (h : ∀ n ∈ f.required, Supplied params n)
    (unfilled : f.pattern.interpolate f.endpoint.path params = .error failure) (options : Dict) :
    f.call params options = pure (.error failure) := by
  rw [EndpointFunction.call, EndpointFunction.rejection?, find?_of_supplied h, accepting,
    firstRefused?_of_accepting]
  simp only [pure_bind, unfilled]

theorem call_of_supplied [Platform] {address : String}
    (accepting : f.capability.accepts = fun _ _ => pure true)
    (h : ∀ n ∈ f.required, Supplied params n)
    (filled : f.pattern.interpolate f.endpoint.path params = .ok address) (options : Dict) :
    f.call params options =
      .ok <$> f.capability.dispatch (f.request params options address) := by
  rw [EndpointFunction.call, EndpointFunction.rejection?, find?_of_supplied h, accepting,
    firstRefused?_of_accepting]
  simp only [pure_bind, filled]
  rw [map_eq_pure_bind]
  rfl

end

/-! ## Clients in a run -/

/-- Materializing a schema fails with the failure of an attribute. -/
theorem resolution_of_materialize {c : Compiled} {w w' : World} {f : Failure}
    (h : outcome c.materialize w = (.error f, w')) :
    ∃ id key cause, f = .resolution id key cause := by
  rcases yields_or_fails (turns c.table) w with
    ⟨values, after, yields⟩ | ⟨_, _, _, _, _, _, _, split, yields, fails⟩
  · obtain ⟨rs, resolved, -, -⟩ := resolveAll_of_yields yields
    cases h.symm.trans resolved
  · cases h.symm.trans (resolveAll_of_fails split yields fails)
    exact ⟨_, _, _, rfl⟩

namespace Cli.Context

variable [Platform]

variable {c : Compiled} {d : Dispatcher} {pattern : Pattern} {rs : List Resolved} {s : Run}
  {w : World}

/-- The client of a materialized schema. -/
theorem ends_client (readable : Pattern.of d.pattern = .ok pattern)
    (materialized : outcome c.materialize s.world = (.ok rs, w)) :
    ∃ log s', RunM.Ends (client c d) s
        (.ok ⟨rs.map (EndpointFunction.entry (recorded d) pattern)⟩) log s' ∧
      (∀ a ∈ log, Act.Preparing a) ∧ s'.script = s.script := by
  have kept := keeps_of_materialize materialized
  obtain ⟨proper, distinct⟩ := flatten_proper c.flattened
  have generated : Client.generate rs (some (recorded d)) none none d.pattern =
      .ok ⟨rs.map (EndpointFunction.entry (recorded d) pattern)⟩ :=
    generate_of_proper none rfl readable (checkId_of_keeps kept proper)
      (ids_of_keeps kept ▸ distinct)
  have resolved : outcome (RunM.ofEval c.materialize) s = (.ok rs, { s with world := w }) := by
    rw [RunM.outcome_ofEval, materialized]
  obtain ⟨log, logs, noted⟩ := RunM.note_grows d.report "restez.schema.resolver"
    ("Resolved " ++ toString rs.length ++ " endpoint definition(s)")
  obtain ⟨log', logs', noted'⟩ := RunM.note_grows d.report clientChannel
    ("Generated client with " ++ toString (rs.map (EndpointFunction.entry (recorded d)
      pattern)).length ++ " endpoint function(s)")
  refine ⟨log ++ log', { s with world := w, trace := s.trace ++ (log ++ log') }, ⟨?_, rfl⟩, ?_, rfl⟩
  · rw [client, outcome_bind_ok resolved, outcome_bind_ok (noted _), generated,
      outcome_bind_ok (RunM.outcome_ofExcept _ _), outcome_bind_ok (noted' _), outcome_pure,
      List.append_assoc]
  · intro a ha
    rcases List.mem_append.1 ha with ha | ha
    · rw [logs a ha]
      trivial
    · rw [logs' a ha]
      trivial

theorem item_of_materialize (d : Dispatcher) (pattern : Pattern) {r : Resolved} {w' : World}
    (materialized : outcome c.materialize w = (.ok rs, w')) (member : r ∈ rs) :
    Client.item ⟨rs.map (EndpointFunction.entry (recorded d) pattern)⟩ r.id =
      .ok ⟨r, recorded d, pattern⟩ :=
  item_of_mem (ids_of_keeps (keeps_of_materialize materialized) ▸ (flatten_proper c.flattened).2)
    member

/-! ## Performing -/

section

variable {client : Client RunM (Except Failure Http.Response)} {id : String}
  {f : EndpointFunction RunM (Except Failure Http.Response)} {params : Dict}
  (item : client.item id = .ok f)

include item

/-- Without a value for a required name, a call is rejected, and that is noted. -/
theorem ends_perform_of_missing {name : Option String} (h : FirstMissing params f.required name)
    (options : Dict) (s : Run) :
    ∃ log s', RunM.Ends (perform d client id params options) s
        (.error (.rejected f.endpoint.id (nameValue name) .required)) log s' ∧
      ∀ a ∈ log, Act.Idle a := by
  obtain ⟨log, logs, noted⟩ := RunM.note_grows d.report clientChannel
    ("Rejected call to " ++ id ++ ": " ++
      (Failure.rejected f.endpoint.id (nameValue name) .required).message)
  refine ⟨log, { s with trace := s.trace ++ log }, ⟨?_, rfl⟩, fun a ha => logs a ha ▸ ⟨rfl, rfl⟩⟩
  rw [perform, item, outcome_bind_ok (RunM.outcome_ofExcept _ _), call_of_missing h,
    outcome_bind_ok (outcome_pure _ _)]
  exact outcome_bind_ok (noted s) _

/-- With a value for every required name, a call comes to its dispatch. -/
theorem outcome_perform_of_supplied {address : String}
    (accepting : f.capability.accepts = fun _ _ => pure true)
    (h : ∀ n ∈ f.required, Supplied params n)
    (filled : f.pattern.interpolate f.endpoint.path params = .ok address) (options : Dict)
    (s : Run) : outcome (perform d client id params options) s =
      outcome (f.capability.dispatch (f.request params options address) >>= RunM.ofExcept) s := by
  rw [perform, item, outcome_bind_ok (RunM.outcome_ofExcept _ _),
    call_of_supplied accepting h filled, map_eq_pure_bind, bind_assoc]
  simp only [pure_bind]

end

/-- The response to a call, or the failure that it is answered with. -/
def sent (d : Dispatcher) (call : Call) : RunM Http.Response :=
  (recorded d).dispatch call >>= RunM.ofExcept

/-- What a call does with a connection: it makes a client and performs one call with it. -/
def session (c : Compiled) (d : Dispatcher) (id : String) (params options : Dict) :
    RunM Http.Response := do
  let client ← client c d
  perform d client id params options

theorem ends_session_of_fails {f : Failure} (id : String) (params options : Dict)
    (fails : outcome c.materialize s.world = (.error f, w)) :
    RunM.Ends (session c d id params options) s (.error f) [] { s with world := w } := by
  have unresolved : outcome (RunM.ofEval c.materialize) s = (.error f, { s with world := w }) := by
    rw [RunM.outcome_ofEval, fails]
  refine .bind_error ?_ _
  exact .bind_error (.of_still unresolved rfl) _

section

variable {r : Resolved} {params : Dict} (readable : Pattern.of d.pattern = .ok pattern)
  (materialized : outcome c.materialize s.world = (.ok rs, w)) (member : r ∈ rs)

include readable materialized member

theorem ends_session_of_missing {name : Option String}
    (h : FirstMissing params (pattern.names r.path) name) (options : Dict) :
    ∃ log s', RunM.Ends (session c d r.id params options) s
        (.error (.rejected r.id (nameValue name) .required)) log s' ∧ ∀ a ∈ log, Act.Idle a := by
  obtain ⟨log, s₁, generated, preparing, -⟩ := ends_client readable materialized
  have item := item_of_materialize d pattern materialized member
  obtain ⟨log', s', performed, idle'⟩ := ends_perform_of_missing (d := d) item h options s₁
  exact ⟨log ++ log', s', generated.bind performed,
    List.forall_mem_append.2 ⟨idle_of_preparing preparing, idle'⟩⟩

/-- With a value for every required name that has a text, the call is sent by the dispatcher. -/
theorem ends_session_of_supplied (h : ∀ n ∈ pattern.names r.path, Supplied params n)
    (worded : ∀ n ∈ pattern.names r.path, Worded params n) (options : Dict) :
    ∃ address log s₁, (∀ a ∈ log, Act.Preparing a) ∧ s₁.script = s.script ∧
      ∀ result acts s', RunM.Ends (sent d ⟨r.id, r.dispatchAttributes, address, params, options⟩)
          s₁ result acts s' →
        RunM.Ends (session c d r.id params options) s result (log ++ acts) s' := by
  obtain ⟨log, s₁, generated, preparing, same⟩ := ends_client readable materialized
  obtain ⟨address, filled⟩ := exists_interpolate_of_worded h worded
  have item := item_of_materialize d pattern materialized member
  refine ⟨address, log, s₁, preparing, same, fun result acts s' ends =>
    generated.bind ⟨?_, ends.grows⟩⟩
  exact (outcome_perform_of_supplied (d := d) item rfl h filled options s₁).trans ends.ends

end

end Cli.Context

/-! ## Sending -/

/-- An act that does not open or close a connection. -/
def Act.Inner (a : Act) : Prop := a.isConnection = false

theorem patternFree_of_uncoded {f : Failure} (h : f.exitCode? = none) : PatternFree f := by
  rintro fault rfl
  cases h

namespace Dispatcher

variable {code : Int} {d : Dispatcher} {c : Call} {f : Failure}

theorem coded_query {names : List (Option String)} (h : query names c = .error f) :
    Coded code f := by
  unfold query at h
  split at h
  · split at h
    · rcases Outcome.bind_eq_error.1 h with h | ⟨_, -, ⟨⟩⟩
      exact coded_mapping h
    · cases h
  · cases h

variable [Platform]

theorem uncoded_textEntry {e : Value × Value} (h : textEntry e = .error f) :
    f.exitCode? = none := by
  rcases Outcome.bind_eq_error.1 h with h | ⟨key, -, h⟩
  · exact uncoded_asText h
  · rcases Outcome.bind_eq_error.1 h with h | ⟨_, -, ⟨⟩⟩
    exact uncoded_asText h

theorem coded_texts {v : Option Value} (h : texts v = .error f) : Coded code f := by
  unfold texts at h
  split at h
  · cases h
  · split at h
    · rcases Outcome.bind_eq_error.1 h with h | ⟨es, -, h⟩
      · exact coded_mapping h
      · rcases Outcome.bind_eq_error.1 h with h | ⟨_, -, ⟨⟩⟩
        obtain ⟨e, -, fails⟩ := Outcome.exists_of_mapM_eq_error h
        exact .of_none (uncoded_textEntry fails)
    · cases h

/-- With a readable pattern, a request that cannot be made fails without an exit code. -/
theorem coded_request {p : Pattern} (readable : Pattern.of d.pattern = .ok p)
    (h : d.request c = .error f) : Coded code f := by
  rcases Outcome.bind_eq_error.1 h with h | ⟨method, -, h⟩
  · exact .of_none (uncoded_asText h)
  rcases Outcome.bind_eq_error.1 h with h | ⟨headers, -, h⟩
  · rcases Outcome.bind_eq_error.1 h with h | ⟨own, -, h⟩
    · exact coded_texts h
    · rcases Outcome.bind_eq_error.1 h with h | ⟨called, -, ⟨⟩⟩
      exact coded_texts h
  · rcases Outcome.bind_eq_error.1 h with h | ⟨names, -, h⟩
    · rcases Outcome.bind_eq_error.1 h with h | ⟨pattern, -, h⟩
      · cases readable.symm.trans h
      · split at h <;> cases h
        exact .of_none rfl
    · rcases Outcome.bind_eq_error.1 h with h | ⟨params, -, ⟨⟩⟩
      exact coded_query h

theorem exitCode?_of_request {p : Pattern} (readable : Pattern.of d.pattern = .ok p)
    (h : d.request c = .error f) : f.exitCode? = none := by
  refine Option.eq_none_iff_forall_ne_some.2 fun code own => ?_
  -- its exit code would be any code
  have zero : code = 0 := coded_request readable h code own
  have one : code = 1 := coded_request readable h code own
  omega

open RunM (Confined)

variable {A : Act → Prop} {F : Failure → Prop}

theorem confined_pause (pauses : ∀ seconds, A (.pause seconds))
    (accidents : ∀ f, f.exitCode? = none → F f) (seconds : Nat) :
    Confined A F (pause seconds) := by
  rw [pause]
  split
  · exact .act (pauses _)
  · exact .throw (accidents _ rfl)

theorem confined_attempt (logs : ∀ channel message, A (.log channel message))
    (pauses : ∀ seconds, A (.pause seconds)) (accidents : ∀ f, f.exitCode? = none → F f)
    (d : Dispatcher) {r : Request} (sends : A (.request r)) (left : Nat) :
    Confined A F (d.attempt r left) := by
  induction left with
  | zero => exact .send sends
  | succ left ih =>
    refine .bind (.send sends) fun answer => ?_
    split
    · exact .pure _
    · exact .bind (.note (logs _ _)) fun _ =>
        .bind (confined_pause pauses accidents _) fun _ => ih

theorem uncoded_bodyText {kind : String} {v : Value} (h : bodyText kind v = .error f) :
    f.exitCode? = none := by
  unfold bodyText at h
  split at h
  · exact uncoded_asText h
  · exact uncoded_writeText h

/-- A rehearsal shows something and does nothing else. -/
theorem confined_rehearse (shows : ∀ m, A (.showing m)) (d : Dispatcher) (r : Request) :
    Confined A PatternFree (d.rehearse r) := by
  have tell (text : String) : Confined A PatternFree (RunM.present (d.report.info text)) :=
    .present fun _ _ => shows _
  refine .bind (tell _) fun _ => .bind (.forIn fun e _ => .bind (tell _) fun _ => .pure _) fun _ =>
    .bind (.forIn fun e _ => .bind (.ofExcept fun f h => ?_) fun _ => .bind (tell _) fun _ =>
      .pure _) fun _ =>
    .bind (.forIn fun e _ => .bind (.ofExcept fun f h => ?_) fun _ => .bind (tell _) fun _ =>
      .pure _) fun _ => ?_
  · exact patternFree_of_uncoded (uncoded_textEntry h)
  · exact patternFree_of_uncoded (uncoded_bodyText h)
  · split
    · exact .pure _
    · exact .throw fun _ h => by cases h

/-- What is made of an answer to a call is a failure of the call or one without an exit code. -/
theorem confined_decided (answers : ∀ message status r, F (.dispatch message status r))
    (accidents : ∀ f, f.exitCode? = none → F f) (d : Dispatcher) (id : String)
    (e : Http.Exchange) : Confined A F (d.outcome id e >>= RunM.ofExcept) := by
  cases e with
  | reply r =>
    rw [Dispatcher.outcome]
    split
    · rw [bind_assoc]
      refine .ofExcept_bind (fun f h => accidents f (exitCode?_of_failureOf h)) fun f h => ?_
      obtain ⟨message, rfl⟩ := failureOf_eq_ok h
      exact .throw (answers _ _ _)
    · exact .pure _
  | fault kind detail =>
    rw [Dispatcher.outcome]
    split
    · rw [pure_bind]
      exact .throw (answers _ _ _)
    · exact .throw (accidents _ rfl)
  | badAddress detail => exact .throw (accidents _ rfl)

theorem sent_eq (d : Dispatcher) (c : Call) : Cli.Context.sent d c = (do
    RunM.note d.report Cli.Context.clientChannel ("Dispatching " ++ c.id ++ " " ++ c.address)
    let r ← RunM.ofExcept (d.request c)
    if d.dryRun then d.rehearse r
    else d.attempt r d.transport.retries >>= fun e => d.outcome c.id e >>= RunM.ofExcept) := by
  show (RunM.note _ _ _ >>= fun _ => d.dispatch c) >>= RunM.ofExcept = _
  rw [bind_assoc, Dispatcher.dispatch]
  refine congrArg _ (funext fun _ => ?_)
  rw [bind_assoc]
  refine congrArg _ (funext fun r => ?_)
  split
  · rw [bind_assoc]
    exact bind_pure _
  · rw [bind_assoc]

/-- A call notes what it does, and rehearses its request or sends it and waits. -/
theorem confined_sent_of {p : Pattern} (readable : Pattern.of d.pattern = .ok p)
    (logs : ∀ channel message, A (.log channel message)) (pauses : ∀ seconds, A (.pause seconds))
    (sends : ∀ r, A (.request r)) (rehearses : d.dryRun = true → ∀ r, Confined A F (d.rehearse r))
    (answers : ∀ message status r, F (.dispatch message status r))
    (accidents : ∀ f, f.exitCode? = none → F f) (c : Call) :
    Confined A F (Cli.Context.sent d c) := by
  rw [sent_eq]
  refine .bind (.note (logs _ _)) fun _ => .bind (.ofExcept fun f h => ?_) fun r => ?_
  · exact accidents f (exitCode?_of_request readable h)
  · split
    · exact rehearses ‹_› r
    · exact .bind (confined_attempt logs pauses accidents d (sends r) _) fun e =>
        confined_decided answers accidents d c.id e

/-- No call opens or closes a connection by itself or ends with a fault of a pattern. -/
theorem confined_sent {p : Pattern} (readable : Pattern.of d.pattern = .ok p) (c : Call) :
    Confined Act.Inner PatternFree (Cli.Context.sent d c) := by
  refine confined_sent_of readable (fun _ _ => rfl) (fun _ => rfl) (fun _ => rfl)
    (fun _ r => confined_rehearse (fun _ => rfl) d r) ?_ ?_ c
  · exact fun _ _ _ _ h => by cases h
  · rintro _ none _ rfl
    cases none

/-- A call that no request can be made of is noted, and fails as the making of its request does. -/
theorem ends_sent_of_error {c : Call} (s : Run) (h : d.request c = .error f) :
    ∃ log s', RunM.Ends (Cli.Context.sent d c) s (.error f) log s' ∧
      ∀ a ∈ log, Act.Preparing a := by
  obtain ⟨log, logs, noted⟩ := RunM.note_grows d.report Cli.Context.clientChannel
    ("Dispatching " ++ c.id ++ " " ++ c.address)
  refine ⟨log, { s with trace := s.trace ++ log }, ⟨?_, rfl⟩, fun a ha => logs a ha ▸ trivial⟩
  rw [sent_eq, outcome_bind_ok (noted s), h]
  exact outcome_bind_error (RunM.outcome_ofExcept _ _) _

/-- A call that a command sends is answered by what the decisive answer settles. -/
theorem ends_sent {c : Call} {r : Request} (s : Run) (sending : d.dryRun = false)
    (made : d.request c = .ok r) :
    ∃ settled acts s', RunM.Ends (Cli.Context.sent d c) s (answered settled) acts s' ∧
      (acts.filterMap Act.request?).length = decisive s.script d.transport.retries + 1 ∧
      Settles c.id d.transport.retries (decisive s.script d.transport.retries)
        (answerAt s.script (decisive s.script d.transport.retries)) settled := by
  obtain ⟨log, logs, noted⟩ := RunM.note_grows d.report Cli.Context.clientChannel
    ("Dispatching " ++ c.id ++ " " ++ c.address)
  obtain ⟨settled, acts, s', dispatched, kinds, settles⟩ :=
    ends_dispatch { s with trace := s.trace ++ log } sending made
  have recorded : RunM.Ends ((Cli.Context.recorded d).dispatch c) s settled (log ++ acts) s' :=
    RunM.Ends.bind ⟨noted s, rfl⟩ dispatched
  have silent : log.filterMap Act.request? = [] :=
    List.filterMap_eq_nil_iff.2 fun a ha => logs a ha ▸ rfl
  refine ⟨settled, log ++ acts, s', ?_, ?_, settles⟩
  · cases settled with
    | error f => exact recorded.bind_error _
    | ok result =>
      have ends := recorded.bind (RunM.Ends.ofExcept result s')
      rwa [List.append_nil] at ends
  · rw [List.filterMap_append, silent, List.nil_append, requests_of_transfers kinds,
      List.length_replicate]

end Dispatcher

/-! ## Attributes of calls -/

theorem getText?_texts_append (m : Assoc String Value) (rest : Dict) (key : String) :
    Dict.getText? ((m.map fun (k, v) => (.text k, v)) ++ rest) key =
      (Assoc.get? m key).or (rest.getText? key) := by
  induction m with
  | nil => rfl
  | cons e m ih =>
    rw [List.map_cons, List.cons_append, Dict.getText?_cons, ih, Assoc.get?]
    by_cases same : e.1 = key <;> simp [same]

theorem getText?_dispatchAttributes (r : Resolved) {key : String} (other : key ∉ reservedKeys) :
    r.dispatchAttributes.getText? key = Assoc.get? r.attributes key := by
  have unlike : "method" ≠ key ∧ "path_template" ≠ key := by
    constructor <;>
    · rintro rfl
      exact other (by decide)
  have kept : ∀ {name : String}, name ≠ key → ∀ (m : Dict) v,
      Assoc.get? (Assoc.insert m (.text name) v) (.text key) = Assoc.get? m (.text key) :=
    fun unlike => (Value.exact_text key).get?_insert_other (mt Value.text.inj unlike)
  have own := getText?_texts_append r.attributes [] key
  rw [List.append_nil, Dict.getText?_nil, Option.or_none] at own
  rw [Dict.getText?, Resolved.dispatchAttributes, Assoc.overlay_cons, Assoc.overlay_cons,
    Assoc.overlay_nil, kept unlike.2, kept unlike.1]
  exact own

theorem getText?_method (r : Resolved) :
    r.dispatchAttributes.getText? "method" = some (.text r.method.verb) := by
  have unlike : Value.text "path_template" ≠ .text "method" := mt Value.text.inj (by decide)
  rw [Dict.getText?, Resolved.dispatchAttributes, Assoc.overlay_cons, Assoc.overlay_cons,
    Assoc.overlay_nil, (Value.exact_text "method").get?_insert_other unlike]
  exact (Value.exact_text "method").get?_insert_self _ _

theorem getText?_path_template (r : Resolved) :
    r.dispatchAttributes.getText? "path_template" = some (.text r.path) :=
  (Value.exact_text "path_template").get?_insert_self _ _

end RouteSchema
