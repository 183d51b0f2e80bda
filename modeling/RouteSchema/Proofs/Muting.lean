import RouteSchema.Proofs.Halting
import RouteSchema.Proofs.Thinning

/-!
# Quieter reports

The report of a command decides what it says on the standard error, and in which form it shows data.
Every command does the same under a report that is quieter, but for the messages that are left out:
none of its steps depends on whether a message was shown.

* `Quieter`: a report shows the messages of another that are kept, and the same data.
* `Dispatcher.thins_dispatch`, `Cli.Context.thins_session`: calls with a quieter dispatcher.
* `Cli.Context.thins_run`: commands with a quieter report.
-/

namespace RouteSchema

open Stateful Http

/-! ## Messages -/

/-- The texts of informational messages: the status of a response, and the lines of a dry run. -/
inductive Informational : String → Prop
  | status (r : Response) : Informational (Cli.Context.statusLine r)
  | rehearsal (method address : String) : Informational ("[dry-run] " ++ method ++ " " ++ address)
  | header (key value : String) : Informational ("  Header: " ++ key ++ ": " ++ value)
  | param (key value : String) : Informational ("  Param: " ++ key ++ "=" ++ value)
  | body (kind value : String) : Informational ("  Body (" ++ kind ++ "): " ++ value)

/-- Whether an act shows a message or writes to a log. -/
def Act.isMessage : Act → Bool
  | .showing (.err _) | .showing (.styledErr _) | .log _ _ => true
  | _ => false

/-- A report that shows the messages of another which are kept, and the same data. -/
structure Quieter (keep : Act → Bool) (r r' : Report) : Prop where
  form : r'.form = r.form
  colourless : r'.colourless = r.colourless
  others : ∀ a, a.isMessage = false → keep a = true
  errors : ∀ text, ∀ m ∈ r.error text, keep (.showing m) = true
  info : ∀ text, Informational text →
    ((r.info text).map Act.showing).filter keep = (r'.info text).map Act.showing
  debug : ∀ text, ((r.debug text).map Act.showing).filter keep = (r'.debug text).map Act.showing
  note : ∀ channel message, (if r.verbose then [Act.log channel message] else []).filter keep =
    if r'.verbose then [.log channel message] else []

variable {keep : Act → Bool} {r r' : Report}

/-! ## Data -/

/-- Whether data is shown. -/
def Shown.isData : Shown → Bool
  | .out _ | .styledOut _ => true
  | .err _ | .styledErr _ => false

theorem isData_of_put [Platform] {draft shown : Shown} (h : Report.put draft = .ok shown)
    (data : draft.isData = true) : shown.isData = true :=
  (put_eq_ok_iff.1 h).2 ▸ data

/-- Tables are data. -/
theorem isData_table [Platform] {headings : List String} {rows : List (List String)}
    {title : Option String} {m : Shown} (h : .ok m ∈ r.tableSteps headings rows title) :
    m.isData = true := by
  unfold Report.tableSteps at h
  split at h
  · obtain ⟨text, -, put⟩ := Outcome.bind_eq_ok.1 (List.mem_singleton.1 h).symm
    exact isData_of_put put rfl
  · obtain ⟨row, -, put⟩ := List.mem_map.1 h
    exact isData_of_put put rfl
  · exact isData_of_put (List.mem_singleton.1 h).symm rfl

/-- Every step that shows data shows data. -/
theorem isData_response [Platform] {data : Value} {m : Shown} (h : .ok m ∈ r.responseSteps data) :
    m.isData = true := by
  obtain ⟨draft, drafted, handed⟩ := List.mem_map.1 h
  obtain ⟨shown, rfl, put⟩ := Outcome.bind_eq_ok.1 handed
  refine isData_of_put put ?_
  unfold Report.drafts at drafted
  split at drafted
  · obtain ⟨line, -, made⟩ := List.mem_map.1 drafted
    obtain ⟨text, -, rfl⟩ := Outcome.map_eq_ok.1 made
    rfl
  · obtain ⟨text, -, rfl⟩ := Outcome.map_eq_ok.1 (List.mem_singleton.1 drafted).symm
    rfl
  · obtain ⟨styled, -, rfl⟩ := Outcome.map_eq_ok.1 (List.mem_singleton.1 drafted).symm
    rfl

theorem mem_leading {steps : List (Except Failure Shown)} {m : Shown}
    (h : m ∈ Report.leading steps) : .ok m ∈ steps := by
  induction steps with
  | nil => cases h
  | cons step steps ih =>
    cases step with
    | error => cases h
    | ok first =>
      rcases List.mem_cons.1 h with rfl | h
      · exact List.mem_cons_self
      · exact List.mem_cons_of_mem _ (ih h)

namespace Quieter

open RunM (Thins)

variable (q : Quieter keep r r')

include q

theorem thins_act {a : Act} (h : a.isMessage = false) : Thins keep Eq (RunM.act a) (RunM.act a) :=
  .act (q.others a h)

theorem thins_pause [Platform] (seconds : Nat) :
    Thins keep Eq (Dispatcher.pause seconds) (Dispatcher.pause seconds) := by
  rw [Dispatcher.pause]
  split
  · exact q.thins_act rfl
  · exact .throw _

theorem thins_debug (text : String) :
    Thins keep Eq (RunM.present (r.debug text)) (RunM.present (r'.debug text)) :=
  .present (q.debug text)

theorem thins_info {text : String} (h : Informational text) :
    Thins keep Eq (RunM.present (r.info text)) (RunM.present (r'.info text)) :=
  .present (q.info text h)

theorem thins_note (channel message : String) :
    Thins keep Eq (RunM.note r channel message) (RunM.note r' channel message) :=
  .note (q.note channel message)

theorem thins_shown {shown : List Shown} (data : ∀ m ∈ shown, m.isData = true) :
    Thins keep Eq (RunM.present shown) (RunM.present shown) := by
  refine .present (List.filter_eq_self.2 fun a ha => ?_)
  obtain ⟨m, hm, rfl⟩ := List.mem_map.1 ha
  have is := data m hm
  refine q.others _ ?_
  cases m with
  | out | styledOut => rfl
  | err | styledErr => cases is

/-- Steps that show data do the same. -/
theorem thins_showAll {steps : List (Except Failure Shown)}
    (data : ∀ m, .ok m ∈ steps → m.isData = true) :
    Thins keep Eq (Cli.Context.showAll steps) (Cli.Context.showAll steps) := by
  have shown : Thins keep Eq (RunM.present (Report.leading steps))
      (RunM.present (Report.leading steps)) :=
    q.thins_shown fun m hm => data m (mem_leading hm)
  rw [Cli.Context.showAll]
  cases h : steps.mapM id with
  | ok all =>
    rw [Cli.leading_of_mapM h] at shown
    exact shown
  | error f => exact shown.bind_same fun _ => .throw f

/-! ## Loading -/

theorem thins_load [Platform] (source : String) :
    Thins keep Eq (Load.tree source) (Load.tree source) := by
  refine .bind_same ?_ fun v => .ofExcept (.refl _)
  unfold Load.document
  split
  · refine .get_bind (fun _ _ => rfl) fun s => ?_
    split
    · exact .throw _
    · split
      · exact .throw _
      · exact .ofExcept (.refl _)
  · split
    · refine .bind_same (q.thins_act rfl) fun _ => .get_bind (fun _ _ => rfl) fun s => ?_
      split
      · split
        · exact .bind_same (.ofExcept (.refl _)) fun text => .ofExcept (.refl _)
        · exact .throw _
      · split
        · exact .throw _
        · exact .throw _
      · exact .throw _
    · refine .bind_same (.ofEval _) fun found => ?_
      split
      · exact .throw _
      · split
        · exact .throw _
        · exact .ofExcept (.refl _)

end Quieter

namespace Cli.Context

open RunM (Thins)

/-- A context whose report is quieter. -/
structure Quieter (keep : Act → Bool) (x x' : Context) : Prop where
  library : x'.library = x.library
  pattern : x'.shared.pattern = x.shared.pattern
  address : x'.shared.address = x.shared.address
  dryRun : x'.shared.dryRun = x.shared.dryRun
  report : RouteSchema.Quieter keep x.report x'.report

theorem thins_requireEndpoint (c : Compiled) (id : String) :
    Thins keep Eq (requireEndpoint c id) (requireEndpoint c id) := by
  unfold requireEndpoint
  split
  · exact .pure rfl
  · exact .throw _

variable [Platform] {x x' : Context} (q : Quieter keep x x')

include q

theorem thins_tree (source : String) : Thins keep Eq (x.tree source) (x'.tree source) := by
  rw [tree, tree, q.library]
  split
  · refine .bind_same (.ofEval _) fun found => ?_
    split
    · exact q.report.thins_load source
    · exact .ofExcept (.refl _)
  · exact q.report.thins_load source

theorem thins_settings : Thins keep Eq x.settings x'.settings := by
  rw [settings, settings, q.pattern, q.address]
  exact .ofEval _

theorem thins_compiled (source : String) (s : Settings) :
    Thins keep Eq (x.compiled source s) (x'.compiled source s) := by
  have placed : Thins keep Eq (x.placedTree source s) (x'.placedTree source s) := by
    refine (thins_tree q source).bind_same fun tree => ?_
    split
    · exact .pure rfl
    · split
      · exact .pure rfl
      · exact (q.report.thins_debug _).bind_same fun _ => .pure rfl
  refine placed.bind_same fun tree => .bind_same (.ofExcept (.refl _)) fun c => ?_
  exact (q.report.thins_note _ _).bind_same fun _ => .pure rfl

theorem thins_endpoints (source : String) :
    Thins keep Eq (x.endpoints source) (x'.endpoints source) := by
  refine (thins_settings q).bind_same fun s => (thins_compiled q source s).bind_same fun c =>
    .bind_same (.ofExcept (.refl _)) fun rows => ?_
  have steps (title : Option String) : x'.report.tableSteps headings rows title =
      x.report.tableSteps headings rows title := by
    rw [Report.tableSteps, Report.tableSteps, q.report.form]
  dsimp only
  rw [steps]
  exact q.report.thins_showAll fun m => isData_table

theorem thins_render (data : Value) : Thins keep Eq (x.render data) (x'.render data) := by
  have steps : x'.report.responseSteps data = x.report.responseSteps data := by
    rw [Report.responseSteps, Report.responseSteps, q.report.form]
  rw [render, render, steps]
  exact q.report.thins_showAll fun m => isData_response

theorem thins_inspect (source id : String) :
    Thins keep Eq (x.inspect source id) (x'.inspect source id) := by
  refine (thins_settings q).bind_same fun s => (thins_compiled q source s).bind_same fun c =>
    (thins_requireEndpoint c id).bind_same fun _ => .bind_same (.ofEval _) fun r => ?_
  exact thins_render q _

end Cli.Context

/-! ## Sending -/

section

variable {m : Type → Type} {ρ : Type}

/-- An endpoint function with another capability. -/
def EndpointFunction.withCapability (capability : Capability m ρ) (f : EndpointFunction m ρ) :
    EndpointFunction m ρ :=
  { f with capability }

/-- A client whose functions have another capability. -/
def Client.withCapability (capability : Capability m ρ) (c : Client m ρ) : Client m ρ :=
  ⟨c.functions.map fun e => (e.1, e.2.withCapability capability)⟩

theorem addAll_withCapability (capability capability' : Capability m ρ) (pattern : Pattern)
    (functions : Assoc String (EndpointFunction m ρ)) (table : List Resolved) :
    Client.addAll capability' pattern
        (functions.map fun e => (e.1, e.2.withCapability capability')) table =
      (Client.addAll capability pattern functions table).map
        (List.map fun e => (e.1, e.2.withCapability capability')) := by
  induction table generalizing functions with
  | nil => rfl
  | cons r rest ih =>
    rw [Client.addAll, Client.addAll]
    cases checkId r.path (some r.id) with
    | error fault => rfl
    | ok id =>
      simp only [bind, Except.bind, Assoc.contains_map]
      split
      · rfl
      · rw [← ih, ← Assoc.insert_map]
        rfl

/-- A capability decides nothing about which clients can be made. -/
theorem generate_withCapability [Platform] [Monad m] (capability capability' : Capability m ρ)
    (table : List Resolved) (choice : PatternChoice) :
    Client.generate table (some capability') none none choice =
      (Client.generate table (some capability) none none choice).map
        (Client.withCapability capability') := by
  rw [Client.generate, Client.generate]
  cases Pattern.of choice with
  | error f => rfl
  | ok pattern =>
    have functions := addAll_withCapability capability capability' pattern [] table
    show (Except.mapError Failure.authoring (Client.addAll capability' pattern [] table) >>= _) =
      Except.map _
        (Except.mapError Failure.authoring (Client.addAll capability pattern [] table) >>= _)
    rw [show Client.addAll capability' pattern [] table = _ from functions]
    cases Client.addAll capability pattern [] table <;> rfl

theorem item_withCapability (capability : Capability m ρ) (c : Client m ρ) (id : String) :
    (c.withCapability capability).item id =
      (c.item id).map (EndpointFunction.withCapability capability) := by
  rw [Client.item, Client.item, Client.withCapability, Assoc.get?_map]
  cases Assoc.get? c.functions id <;> rfl

end

namespace Dispatcher

open RunM (Thins)

/-- A dispatcher whose report is quieter. -/
structure Quieter (keep : Act → Bool) (d d' : Dispatcher) : Prop where
  transport : d'.transport = d.transport
  dryRun : d'.dryRun = d.dryRun
  pattern : d'.pattern = d.pattern
  report : RouteSchema.Quieter keep d.report d'.report

variable {d d' : Dispatcher} (q : Quieter keep d d')

include q

theorem thins_connected {α : Type} {step step' : RunM α} (h : Thins keep Eq step step') :
    Thins keep Eq (d.connected step) (d'.connected step') := by
  unfold connected
  rw [q.transport]
  exact (q.report.thins_act rfl).bind_same fun _ => h.ensuring (q.report.others _ rfl)

variable [Platform]

theorem thins_attempt (request : Request) (left : Nat) :
    Thins keep Eq (d.attempt request left) (d'.attempt request left) := by
  have sends : Thins keep Eq (RunM.send request) (RunM.send request) :=
    .send (q.report.others _ rfl)
  induction left with
  | zero => exact sends
  | succ left ih =>
    refine sends.bind_same fun answer => ?_
    split
    · exact .pure rfl
    · rw [q.transport]
      exact (q.report.thins_note _ _).bind_same fun _ =>
        (q.report.thins_pause _).bind_same fun _ => ih

theorem thins_rehearse (request : Request) :
    Thins keep Eq (d.rehearse request) (d'.rehearse request) := by
  refine (q.report.thins_info (.rehearsal _ _)).bind_same fun _ => ?_
  refine .bind_same (.forIn fun e _ => ?_) fun _ => ?_
  · exact (q.report.thins_info (.header _ _)).bind_same fun _ => .pure rfl
  refine .bind_same (.forIn fun e _ => ?_) fun _ => ?_
  · refine .bind_same (.ofExcept (.refl _)) fun entry => ?_
    exact (q.report.thins_info (.param _ _)).bind_same fun _ => .pure rfl
  refine .bind_same (.forIn fun e _ => ?_) fun _ => ?_
  · refine .bind_same (.ofExcept (.refl _)) fun text => ?_
    exact (q.report.thins_info (.body _ _)).bind_same fun _ => .pure rfl
  split
  · exact .pure rfl
  · exact .throw _

theorem request_eq (c : Call) : d'.request c = d.request c := by
  rw [request, request, pathNames, pathNames, q.pattern]

theorem thins_outcome (id : String) (answer : Exchange) :
    Thins keep Eq (d.outcome id answer) (d'.outcome id answer) := by
  unfold outcome
  rw [q.transport]
  split
  · split
    · exact .bind_same (.ofExcept (.refl _)) fun failure => .pure rfl
    · exact .pure rfl
  · split
    · exact .pure rfl
    · exact .throw _
  · exact .throw _

theorem thins_dispatch (c : Call) : Thins keep Eq (d.dispatch c) (d'.dispatch c) := by
  unfold dispatch
  rw [request_eq q, q.dryRun]
  refine .bind_same (.ofExcept (.refl _)) fun request => ?_
  split
  · exact (thins_rehearse q request).bind_same fun _ => .pure rfl
  · rw [q.transport]
    exact (thins_attempt q request _).bind_same fun answer => thins_outcome q c.id answer

end Dispatcher

namespace Cli.Context

open RunM (Thins)

variable [Platform] {d d' : Dispatcher}

/-- What is sent of a call, and how that is noted. -/
theorem thins_recorded (q : Dispatcher.Quieter keep d d') (c : Call) :
    Thins keep Eq ((recorded d).dispatch c) ((recorded d').dispatch c) :=
  (q.report.thins_note _ _).bind_same fun _ => Dispatcher.thins_dispatch q c

/-- Clients that only differ in the dispatcher they record. -/
def Akin (d d' : Dispatcher) (client client' : Client RunM (Except Failure Response)) : Prop :=
  client = client.withCapability (recorded d) ∧ client' = client.withCapability (recorded d')

theorem thins_client (q : Dispatcher.Quieter keep d d') (c : Compiled) :
    Thins keep (Akin d d') (client c d) (client c d') := by
  refine .bind_same (.ofEval _) fun table => (q.report.thins_note _ _).bind_same fun _ => ?_
  have generated : RunM.Agree (Akin d d')
      (Client.generate table (some (recorded d)) none none d.pattern)
      (Client.generate table (some (recorded d')) none none d'.pattern) := by
    rw [q.pattern, generate_withCapability (recorded d) (recorded d')]
    have own := generate_withCapability (recorded d) (recorded d) table d.pattern
    cases made : Client.generate table (some (recorded d)) none none d.pattern with
    | error f => exact .error f
    | ok client =>
      rw [made] at own
      exact .ok ⟨Except.ok.inj own, rfl⟩
  refine (Thins.ofExcept generated).bind fun client client' akin => ?_
  have size : client'.functions.length = client.functions.length := by
    rw [akin.2]
    exact List.length_map _
  rw [size]
  exact (q.report.thins_note _ _).bind_same fun _ => .pure akin

theorem thins_call (q : Dispatcher.Quieter keep d d')
    (f : EndpointFunction RunM (Except Failure Response)) (params options : Dict) :
    Thins keep Eq ((f.withCapability (recorded d)).call params options)
      ((f.withCapability (recorded d')).call params options) := by
  rcases firstMissing_or_supplied params f.required with ⟨name, missing⟩ | supplied
  · have rejected : ∀ d, (f.withCapability (recorded d)).call params options =
        pure (.error (.rejected f.endpoint.id (nameValue name) .required)) :=
      fun d => call_of_missing (f := f.withCapability (recorded d)) missing options
    rw [rejected, rejected]
    exact .pure rfl
  · cases filled : f.pattern.interpolate f.endpoint.path params with
    | error failure =>
      have unfilled : ∀ d, (f.withCapability (recorded d)).call params options =
          pure (.error failure) :=
        fun d => call_of_supplied_error (f := f.withCapability (recorded d)) rfl supplied filled options
      rw [unfilled, unfilled]
      exact .pure rfl
    | ok address =>
      have dispatched : ∀ d, (f.withCapability (recorded d)).call params options =
          .ok <$> (recorded d).dispatch (f.request params options address) :=
        fun d => call_of_supplied (f := f.withCapability (recorded d)) rfl supplied filled options
      rw [dispatched, dispatched, map_eq_pure_bind, map_eq_pure_bind]
      exact (thins_recorded q _).bind_same fun result => .pure rfl

theorem thins_perform (q : Dispatcher.Quieter keep d d')
    (client : Client RunM (Except Failure Response)) (id : String) (params options : Dict) :
    Thins keep Eq (perform d (client.withCapability (recorded d)) id params options)
      (perform d' (client.withCapability (recorded d')) id params options) := by
  rw [perform, perform, item_withCapability, item_withCapability]
  cases client.item id with
  | error f => exact .throw f
  | ok f =>
    have found : ∀ f : EndpointFunction RunM (Except Failure Response),
        RunM.ofExcept (Except.ok f) = pure f := fun _ => rfl
    rw [Except.map, Except.map, found, found, pure_bind, pure_bind]
    refine (thins_call q f params options).bind_same fun result => ?_
    split
    · exact .ofExcept (.refl _)
    · dsimp only
      split
      · exact (q.report.thins_note _ _).bind_same fun _ => .throw _
      · exact (q.report.thins_note _ _).bind_same fun _ => .throw _
      · exact .throw _

theorem thins_session (q : Dispatcher.Quieter keep d d') (c : Compiled) (id : String)
    (params options : Dict) :
    Thins keep Eq (session c d id params options) (session c d' id params options) := by
  refine (thins_client q c).bind fun client client' akin => ?_
  have performed := thins_perform q client id params options
  rwa [← akin.1, ← akin.2] at performed

/-! ## Commands -/

variable {x x' : Context}

theorem thins_answer (q : Quieter keep x x') (response : Response) :
    Thins keep Eq (x.answer response) (x'.answer response) := by
  refine (q.report.thins_info (.status response)).bind_same fun _ =>
    .bind_same (.ofExcept (.refl _)) fun data => ?_
  rw [tell.eq_def, tell.eq_def]
  split
  · exact .pure rfl
  · exact thins_render q _

theorem thins_proceed (q : Quieter keep x x') (id : String) (p : Preparation) :
    Thins keep Eq (x.proceed id p) (x'.proceed id p) := by
  have d : Dispatcher.Quieter keep (x.dispatcher p.settings) (x'.dispatcher p.settings) :=
    ⟨rfl, q.dryRun, rfl, q.report⟩
  have answered := Dispatcher.thins_connected d (thins_session d p.compiled id p.params p.options)
  rw [proceed, proceed]
  exact (thins_requireEndpoint p.compiled id).bind_same fun _ =>
    answered.bind_same (thins_answer q)

/-- A command with a quieter report does the same, but for the messages that are not kept. -/
theorem thins_run (q : Quieter keep x x') (c : Command) : Thins keep Eq (x.run c) (x'.run c) := by
  cases c with
  | endpoints source => exact thins_endpoints q source
  | inspect source id => exact thins_inspect q source id
  | call source id params headers body =>
    have run : x.run (.call source id params headers body) = _ :=
      x.run_command ⟨source, id, params, headers, body⟩
    have run' : x'.run (.call source id params headers body) = _ :=
      x'.run_command ⟨source, id, params, headers, body⟩
    rw [run, run']
    refine .bind_same (.ofExcept (.refl _)) fun given => (thins_settings q).bind_same fun t => ?_
    exact (thins_compiled q source t).bind_same fun c => thins_proceed q id _

end Cli.Context

end RouteSchema
