import RouteSchema.Proofs.Exiting
import RouteSchema.Proofs.Muting
import RouteSchema.Proofs.Recovering

/-!
# Echoing JSON

A call that asks for JSON writes the JSON value of its response to the standard output, as a text
that is read as that value. Two kinds of values do not come through. Null is taken for a missing
body, and nothing is written. A text is read as JSON once more, and what it says takes its place.

* `Dispatcher.reply_of_sent`: the response to a call is the answer to its last request.
* `Echoes` says what is written for a JSON value: `echoes_of_json`.
* `Echoes.echoed_iff`: which values come through.
* `json_call_echoes`: what is on the standard output after a call that succeeds.
-/

namespace RouteSchema

open Stateful Http

/-! ## Output -/

/-- Whether an act puts something on the standard output. -/
def Act.isData : Act → Bool
  | .showing m => m.isData
  | .help => true
  | _ => false

/-- An act that puts nothing on the standard output. -/
def Act.Mute (a : Act) : Prop := a.isData = false

theorem Act.Preparing.mute {a : Act} (h : a.Preparing) : a.Mute := by
  cases a with
  | showing m =>
    cases m with
    | err | styledErr => rfl
    | out | styledOut => exact h.elim
  | fetch | log => rfl
  | _ => exact h.elim

theorem outputs_of_mute {acts : List Act} (h : ∀ a ∈ acts, a.Mute) :
    acts.filter Act.isData = [] :=
  List.filter_eq_nil_iff.2 fun a ha => Bool.eq_false_iff.1 (h a ha)

theorem outputs_of_preparing {acts : List Act} (h : ∀ a ∈ acts, a.Preparing) :
    acts.filter Act.isData = [] :=
  outputs_of_mute fun a ha => (h a ha).mute

theorem ofStatus_ne_success (status : Option Int) :
    ExitCode.ofStatus status ≠ ExitCode.success := by
  unfold ExitCode.ofStatus
  split
  · decide
  · repeat' split
    all_goals decide

/-! ## Calls that are sent -/

namespace Dispatcher

variable [Platform] {d : Dispatcher} {c : Call} {s s' : Run}

open RunM (Confined)

/-- A call that is not rehearsed puts nothing on the standard output, and its failures have exit
codes other than that for success. -/
theorem mute_sent {p : Pattern} (readable : Pattern.of d.pattern = .ok p)
    (sending : d.dryRun = false) (c : Call) :
    Confined Act.Mute (fun f => f.exitCode ≠ ExitCode.success) (Cli.Context.sent d c) := by
  refine confined_sent_of readable (fun _ _ => rfl) (fun _ => rfl) (fun _ => rfl) ?_
    (fun _ status _ => ofStatus_ne_success status) (fun f none => ?_) c
  · intro rehearsed
    cases sending.symm.trans rehearsed
  · rw [Failure.exitCode, none]
    decide

/-- Only a response is answered to a call as a success, and it is the answer that settles the call. -/
theorem reply_of_settles {id : String} {retries position : Nat} {e : Exchange}
    {settled : Except Failure (Except Failure Response)} {response : Response}
    (h : Settles id retries position e settled) (replied : answered settled = .ok response) :
    e = .reply response := by
  cases h with
  | result decides =>
    cases decides with
    | success => cases replied; rfl
    | refusal => cases replied
    | exhaustion => cases replied
  | wordless | sleepless | fault | badAddress => cases replied

/-- The response to a call that is not rehearsed is the answer to the last request sent. -/
theorem reply_of_sent {response : Response} {acts : List Act} (sending : d.dryRun = false)
    (h : RunM.Ends (Cli.Context.sent d c) s (.ok response) acts s') :
    answerAt s.script (decisive s.script d.transport.retries) = .reply response ∧
      (acts.filterMap Act.request?).length = decisive s.script d.transport.retries + 1 := by
  cases made : d.request c with
  | error f =>
    have ends := h.ends
    obtain ⟨log, -, noted⟩ := RunM.note_grows d.report Cli.Context.clientChannel
      ("Dispatching " ++ c.id ++ " " ++ c.address)
    rw [sent_eq, outcome_bind_ok (noted s), made,
      outcome_bind_error (RunM.outcome_ofExcept _ _)] at ends
    cases ends
  | ok r =>
    obtain ⟨settled, _, _, sends, length, settles⟩ := ends_sent s sending made
    obtain ⟨replied, rfl, -⟩ := sends.unique h
    exact ⟨reply_of_settles settles replied, length⟩

end Dispatcher

/-! ## Values -/

namespace Cli

/-- What is put on the standard output for a JSON value: nothing for null, for a text the value that
it writes in JSON or else the bare text, and for any other value a text that is read as it. -/
inductive Echoes : Value → List Shown → Prop
  | value {v : Value} (filled : v ≠ .null) (plain : ∀ t, v ≠ .text t) {text : String}
      (reads : Json.read (text ++ "\n") = .ok v) : Echoes v [.out (text ++ "\n")]
  | null : Echoes .null []
  | content {t : String} {v : Value} (writes : Json.read t = .ok v) {text : String}
      (reads : Json.read (text ++ "\n") = .ok v) : Echoes (.text t) [.out (text ++ "\n")]
  | bare {t : String} {fault : Json.Fault} (unread : Json.read t = .error fault) :
      Echoes (.text t) [.out (t ++ "\n")]

/-- Exactly the values are echoed that are neither null nor texts. -/
theorem Echoes.echoed_iff {v : Value} {shown : List Shown} (h : Echoes v shown) :
    (∃ line, shown = [.out line] ∧ Json.read line = .ok v) ↔ v ≠ .null ∧ ∀ t, v ≠ .text t := by
  cases h with
  | value filled plain reads => exact ⟨fun _ => ⟨filled, plain⟩, fun _ => ⟨_, rfl, reads⟩⟩
  | null =>
    refine ⟨?_, fun other => absurd rfl other.1⟩
    rintro ⟨_, ⟨⟩, _⟩
  | @content t v writes text reads =>
    refine ⟨?_, fun other => absurd rfl (other.2 t)⟩
    rintro ⟨_, ⟨⟩, again⟩
    -- the text would be read from itself
    cases reads.symm.trans again
    have shorter := Json.length_of_read writes
    omega
  | @bare t =>
    refine ⟨?_, fun other => absurd rfl (other.2 t)⟩
    rintro ⟨_, ⟨⟩, reads⟩
    have shorter := Json.length_of_read reads
    have newLine : (t ++ "\n").length = t.length + 1 := String.length_append ..
    omega

section

variable [Platform] {report : Report} {v : Value}

/-- What is shown of data in JSON form is its text, on a line. -/
theorem response_of_json {shown : List Shown} (form : report.form = .json)
    (h : report.response v = .ok shown) :
    ∃ text, Report.jsonText v = .ok text ∧ shown = [.out (text ++ "\n")] := by
  rw [Report.response, Report.responseSteps, form, Outcome.mapM_eq_ok] at h
  obtain ⟨m, _, put, ⟨⟩, rfl⟩ := List.forall₂_cons_left_iff.1 h
  obtain ⟨draft, drafted, put⟩ := Outcome.bind_eq_ok.1 put
  obtain ⟨text, written, rfl⟩ := Outcome.map_eq_ok.1 drafted
  obtain ⟨-, rfl⟩ := put_eq_ok_iff.1 put
  exact ⟨text, written, rfl⟩

/-- What is written as JSON for a value that is read somewhere is read as this value. -/
theorem read_of_writeText {source text : String} (h : Json.read source = .ok v)
    (written : Json.writeText .indented v = .ok text) : Json.read (text ++ "\n") = .ok v := by
  unfold Json.writeText at written
  split at written
  · cases written
  · exact Json.read_of_write h (Outcome.mapError_eq_ok.1 written)

theorem echoes_of_jsonText {source text : String} (h : Json.read source = .ok v)
    (filled : v ≠ .null) (written : Report.jsonText v = .ok text) :
    Echoes v [.out (text ++ "\n")] := by
  obtain ⟨⟨w, isJson⟩, parsed, written⟩ := Outcome.bind_eq_ok.1 written
  by_cases content : ∃ t, v = .text t
  · obtain ⟨t, rfl⟩ := content
    unfold Report.parsed at parsed
    dsimp only at parsed
    rcases Json.readAt_cases .report t with deep | reads
    · rw [deep] at parsed
      cases parsed
    · rw [reads] at parsed
      cases again : Json.read t with
      | ok w' =>
        rw [again] at parsed
        cases parsed
        exact .content again (read_of_writeText again written)
      | error fault =>
        rw [again] at parsed
        dsimp only at parsed
        split at parsed
        · cases parsed
        · cases parsed
          cases written
          exact .bare again
  · have plain : ∀ t, v ≠ .text t := not_exists.1 content
    rw [parsed_of_value plain] at parsed
    cases parsed
    exact .value filled plain (read_of_writeText h written)

theorem responseData_of_json? {r : Response} (filled : r.body ≠ [])
    (value : r.json? = .ok (some v)) : Context.responseData r = .ok v := by
  rw [Context.responseData, value, if_neg (by simpa using filled)]

theorem echoes_of_json {r : Response} (form : report.form = .json) (legible : Legible report r)
    (filled : r.body ≠ []) (value : r.json? = .ok (some v)) : Echoes v (dataShown report r) := by
  obtain ⟨source, read⟩ := exists_read_of_json? value
  have data := responseData_of_json? filled value
  by_cases null : v = .null
  · subst null
    rw [dataShown_of_null data]
    exact .null
  · obtain ⟨_, same, fits⟩ := legible
    cases data.symm.trans same
    obtain ⟨shown, response⟩ := exists_response_iff.2 (fits.resolve_left null)
    obtain ⟨text, written, rfl⟩ := response_of_json form response
    rw [dataShown_of_ne data null, leading_of_mapM response]
    exact echoes_of_jsonText read null written

end

/-! ## Calls -/

section

variable [Platform] {x : Context} {i : Invocation} {s s' : Run}

theorem exitCode_ne_of_halts {stage : Stage} {f : Failure} (h : Halts x i s stage f) :
    f.exitCode ≠ ExitCode.success := by
  rcases own : f.exitCode? with _ | code
  · rw [Failure.exitCode, own]
    decide
  · rw [exitCode_of_coded h.coded (own ▸ rfl)]
    cases stage <;> decide

theorem outputs_told (report : Report) (r : Response) :
    (told report (.ok r)).filter Act.isData = (dataShown report r).map .showing := by
  have status :
      ((report.info (Context.statusLine r)).map Act.showing).filter Act.isData = [] := by
    refine outputs_of_preparing (List.forall_mem_map.2 fun m hm => ?_)
    unfold Report.info at hm
    split at hm
    · cases hm
    · exact preparing_message _ _ _ m hm
  have data : ((dataShown report r).map Act.showing).filter Act.isData =
      (dataShown report r).map .showing := by
    refine List.filter_eq_self.2 (List.forall_mem_map.2 fun m hm => ?_)
    unfold dataShown at hm
    split at hm
    · cases hm
    · cases hm
    · exact isData_response (mem_leading hm)
  rw [told, List.map_append, List.filter_append, status, data, List.nil_append]

/-- A ready call that ends with success puts on the standard output what its last answer says, and
nothing else. -/
theorem outputs_of_ready {p : Preparation} {r : Resolved} {acts : List Act} (h : Ready x i s p r)
    (sending : x.shared.dryRun = false) {result : Except Failure Unit}
    (ends : RunM.Ends (x.run i.command) s result acts s') (succeeds : exitCode result = 0) :
    result = .ok () ∧ ∃ response,
      acts.filter Act.isConnection = [.opening p.settings.transport, .closing] ∧
      (acts.filterMap Act.request?).length =
        decisive s.script p.settings.transport.retries + 1 ∧
      answerAt s.script (decisive s.script p.settings.transport.retries) = .reply response ∧
      Legible x.report response ∧
      acts.filter Act.isData = (dataShown x.report response).map .showing := by
  obtain ⟨_, _, _, ends', connections, -⟩ := exits_of_ready h
  obtain ⟨rfl, rfl, -⟩ := ends'.unique ends
  obtain ⟨address, before, log, after, same, preparing, preparing', runs⟩ := ends_of_ready h
  have confined := Dispatcher.mute_sent (x.readable p.settings) sending
    ⟨r.id, r.dispatchAttributes, address, p.params, p.options⟩
  rcases answered : outcome (Context.sent (x.dispatcher p.settings)
    ⟨r.id, r.dispatchAttributes, address, p.params, p.options⟩) after with ⟨answer, between⟩
  obtain ⟨sent, sends, mute⟩ := confined.exists_ends answered
  obtain ⟨shown, _, runs, shows⟩ := runs sends
  obtain ⟨rfl, rfl, -⟩ := runs.unique ends
  cases shows with
  | failure f => exact absurd succeeds (confined.failures after f between answered)
  | illegible _ uncoded =>
    rw [exitCode, Failure.exitCode, uncoded] at succeeds
    cases succeeds
  | @legible response legible =>
    obtain ⟨last, length⟩ := Dispatcher.reply_of_sent sending sends
    rw [same] at last length
    refine ⟨rfl, response, connections, ?_, last, legible, ?_⟩
    · rw [requests_of_called preparing preparing']
      exact length
    · have enclosing : ∀ a ∈ enclosed p.settings.transport (log ++ sent), a.Mute :=
        forall_mem_enclosed rfl rfl
          (List.forall_mem_append.2 ⟨fun a ha => (preparing' a ha).mute, mute⟩)
      rw [List.filter_append, List.filter_append, outputs_of_preparing preparing,
        outputs_of_mute enclosing, outputs_told]
      rfl

/-- **A successful call that asks for JSON echoes the value of its response, but for null and
texts.** Its response is the answer to the last request of its connection. Exactly if the value of
the body is neither null nor a text, the standard output is a text that is read as this value. -/
theorem json_call_echoes (library : Library) (terminal : Bool) {args : List String}
    {shared : Shared} {i : Invocation} (s : Run) {acts : List Act} {s' : Run}
    (line : Line.read args = .command shared i.command) (json : shared.json = true)
    (sending : shared.dryRun = false)
    (succeeds : RunM.Ends (runLine library terminal args) s (.ok 0) acts s') :
    ∃ transport response,
      acts.filter Act.isConnection = [.opening transport, .closing] ∧
      (acts.filterMap Act.request?).length = decisive s.script transport.retries + 1 ∧
      answerAt s.script (decisive s.script transport.retries) = .reply response ∧
      ∀ v, response.body ≠ [] → response.json? = .ok (some v) →
        ∃ shown, acts.filter Act.isData = shown.map .showing ∧ Echoes v shown ∧
          ((∃ line, shown = [.out line] ∧ Json.read line = .ok v) ↔
            v ≠ .null ∧ ∀ t, v ≠ .text t) := by
  let x := Context.of library terminal shared s
  rcases halts_or_ready x i s with ⟨stage, f, halts⟩ | ⟨p, r, ready⟩
  · obtain ⟨_, _, ends, -⟩ := ends_of_halts halts
    have code := ((concludes_runLine line ends).unique succeeds).1
    exact absurd (Except.ok.inj code) (exitCode_ne_of_halts halts)
  · obtain ⟨shown, _, _, ends, -⟩ := exits_of_ready ready
    obtain ⟨code, rfl, -⟩ := (concludes_runLine line ends).unique succeeds
    obtain ⟨rfl, response, connections, requests, answer, legible, outputs⟩ :=
      outputs_of_ready ready sending ends (Except.ok.inj code)
    rw [conclusion, List.append_nil]
    refine ⟨_, response, connections, requests, answer, fun v filled value => ?_⟩
    have form : x.report.form = .json := by
      show (formOf shared).getD _ = _
      rw [formOf, json]
      rfl
    have echoes := echoes_of_json form legible filled value
    exact ⟨_, outputs, echoes, echoes.echoed_iff⟩

end

/-- A response below 400 that can be shown means success. -/
theorem Concludes.eq_success [Platform] {report : Report} {retries position : Nat} {r : Response}
    {code : Int} (h : Concludes report retries position (.reply r) code) (below : r.status < 400)
    (legible : Legible report r) : code = 0 := by
  cases h with
  | accident inconclusive =>
    refine absurd ⟨rfl, fun passing => ?_, ?_⟩ inconclusive
    · have failed : 500 ≤ r.status := by simpa [Exchange.isPassing] using passing
      omega
    · rintro _ ⟨⟩ refused
      omega
  | result _ exits =>
    cases exits with
    | success => rfl
    | illegible _ illegible => exact absurd legible illegible
    | authentication | notFound | server | refusal => omega

theorem answerAt_singleton (e : Exchange) (i : Nat) : answerAt [e] i = e := by
  cases i <;> rfl

/-- A run in which a look at the board is answered with a body. -/
def replying (body : List UInt8) : Run := visit [("TOKEN", "abc")] [.reply ⟨200, [], body⟩]

theorem json?_of_decodes {body : List UInt8} {source : String} {v : Value} (status : Int)
    (encoding : Charset.ofJson body = .utf8) (decodes : Utf8.decode body = .ok source)
    (read : Json.read source = .ok v) :
    @Response.json? .usual ⟨status, [], body⟩ = .ok (some v) := by
  let _ : Platform := .usual
  have decoded : Charset.decode? body .utf8 = some source := by
    rw [Charset.decode?, decodes]
    rfl
  rw [Response.json?, encoding, decoded]
  dsimp only
  rw [Json.readAt_of_shallow rfl, read]

/-- A look at the board echoes what the body of the answer says. -/
theorem ends_viewing {body : List UInt8} {v : Value} (filled : body ≠ [])
    (value : @Response.json? .usual ⟨200, [], body⟩ = .ok (some v))
    (readable : ∀ text, v = .text text → Readable text) :
    ∃ acts s' shown, RunM.Ends (@runLine .usual boards false ["--json", "call", "m:t", "view"])
      (replying body) (.ok 0) acts s' ∧ acts.filter Act.isData = shown.map .showing ∧
      Echoes v shown := by
  let _ : Platform := .usual
  have ready : Ready (Context.of boards false asJson (replying body)) viewing (replying body)
      preparation viewed := ready_viewing _
  obtain ⟨shown, acts, s₁, ends, -, -, sends⟩ := exits_of_ready ready
  obtain ⟨-, concludes⟩ := (sends rfl).1 ⟨textMappable_none, mappable_none⟩
  have last : answerAt (replying body).script (decisive (replying body).script
      preparation.settings.transport.retries) = .reply ⟨200, [], body⟩ := rfl
  rw [last] at concludes
  obtain ⟨source, read⟩ := exists_read_of_json? value
  have legible : Legible (Context.of boards false asJson (replying body)).report
      ⟨200, [], body⟩ :=
    ⟨v, responseData_of_json? filled value,
      .inr ⟨(Json.named_of_read read).showable (.inr readable), fits_usual _ _⟩⟩
  have code : exitCode shown = 0 := concludes.eq_success (show (200 : Int) < 400 by decide) legible
  obtain ⟨rfl, r, -, -, answer, -, outputs⟩ := outputs_of_ready ready rfl ends code
  cases last.symm.trans answer
  refine ⟨_, _, _, concludes_runLine read_viewing ends, ?_, echoes_of_json rfl legible filled value⟩
  rw [conclusion, List.append_nil, outputs]

/-- A list in the body is echoed. -/
theorem json_call_echoes_list :
    let _ : Platform := .usual
    let body : List UInt8 := [91, 49, 93]
    ∃ acts s' shown, RunM.Ends (runLine boards false ["--json", "call", "m:t", "view"])
      (replying body) (.ok 0) acts s' ∧ acts.filter Act.isData = shown.map .showing ∧
      Echoes (.list [.int 1]) shown := by
  intro _ body
  have read : Json.read "[1]" = .ok (.list [.int 1]) := by
    rw [Json.read]
    show Json.readChars ['[', '1', ']'] = _
    rw [Json.readChars]
    rfl
  have decoded : Utf8.decode [91, 49, 93] = .ok "[1]" := by decide +kernel
  have value : Response.json? ⟨200, [], body⟩ = .ok (some (.list [.int 1])) :=
    json?_of_decodes 200 rfl decoded read
  obtain ⟨acts, s', -, ends, -⟩ := ends_viewing (List.cons_ne_nil _ _) value (by rintro _ ⟨⟩)
  obtain ⟨_, r, -, -, answer, echoes⟩ :=
    json_call_echoes boards false (replying body) read_viewing rfl rfl ends
  cases (answerAt_singleton _ _).symm.trans answer
  obtain ⟨shown, outputs, echoes, -⟩ := echoes _ (List.cons_ne_nil _ _) value
  exact ⟨acts, s', shown, ends, outputs, echoes⟩

/-- Null in the body is not echoed, and a text in the body that writes a number is echoed as that
number. -/
theorem json_call_garbles :
    let _ : Platform := .usual
    (Response.json? ⟨200, [], Utf8.encode "null"⟩ = .ok (some .null) ∧
      ∃ acts s', RunM.Ends (runLine boards false ["--json", "call", "m:t", "view"])
        (replying (Utf8.encode "null")) (.ok 0) acts s' ∧ acts.filter Act.isData = []) ∧
    Response.json? ⟨200, [], Utf8.encode "\"123\""⟩ = .ok (some (.text "123")) ∧
      ∃ acts s' line, RunM.Ends (runLine boards false ["--json", "call", "m:t", "view"])
        (replying (Utf8.encode "\"123\"")) (.ok 0) acts s' ∧
        acts.filter Act.isData = [.showing (.out line)] ∧ Json.read line = .ok (.int 123) := by
  intro _
  constructor
  · have read : Json.read "null" = .ok .null := by
      rw [Json.read]
      show Json.readChars ['n', 'u', 'l', 'l'] = _
      rw [Json.readChars]
      rfl
    have decoded : Utf8.decode (Utf8.encode "null") = .ok "null" := by decide +kernel
    have value : Response.json? ⟨200, [], Utf8.encode "null"⟩ = .ok (some .null) :=
      json?_of_decodes 200 (by decide +kernel) decoded read
    obtain ⟨acts, s', shown, ends, outputs, echoes⟩ :=
      ends_viewing (by decide +kernel) value (by rintro _ ⟨⟩)
    cases echoes with
    | value filled => exact absurd rfl filled
    | null => exact ⟨value, acts, s', ends, outputs⟩
  · have number : Json.read "123" = .ok (.int 123) := by
      rw [Json.read]
      show Json.readChars ['1', '2', '3'] = _
      rw [Json.readChars]
      rfl
    have read : Json.read "\"123\"" = .ok (.text "123") := by
      obtain ⟨cs, pos, quoted, content⟩ := Json.text_writtenText "123" [] 0 1
      obtain rfl : ['1', '2', '3', '"'] = cs := (List.cons.inj quoted).2
      rw [Json.read]
      show Json.readChars ['"', '1', '2', '3', '"'] = _
      rw [Json.readChars]
      show (Json.value 12 0 ['"', '1', '2', '3', '"'] >>= _) = _
      rw [Json.value, content]
      rfl
    have decoded : Utf8.decode (Utf8.encode "\"123\"") = .ok "\"123\"" := by decide +kernel
    have value : Response.json? ⟨200, [], Utf8.encode "\"123\""⟩ = .ok (some (.text "123")) :=
      json?_of_decodes 200 (by decide +kernel) decoded read
    have readable : ∀ text, Value.text "123" = .text text → Readable text := by
      rintro _ ⟨⟩ fault unread
      cases number.symm.trans unread
    obtain ⟨acts, s', shown, ends, outputs, echoes⟩ :=
      ends_viewing (by decide +kernel) value readable
    cases echoes with
    | value _ plain => exact absurd rfl (plain _)
    | content writes reads =>
      cases number.symm.trans writes
      exact ⟨value, acts, s', _, ends, outputs, reads⟩
    | bare unread => cases number.symm.trans unread

end Cli

end RouteSchema
