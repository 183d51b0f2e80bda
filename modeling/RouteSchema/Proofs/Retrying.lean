import Mathlib.Data.List.GetD
import RouteSchema.Http.Dispatcher
import RouteSchema.Platform.Usual
import RouteSchema.Proofs.Tracing
import RouteSchema.Proofs.Wording

/-!
# Retrying

A request is sent again after a failure of the server or of the transport, as long as attempts are
left and a pause can be made. Seen from outside, one of the answers is decisive: the first that is no
such failure, or the one after which there is no further attempt. The answers before it only make the
run wait.

* `decisive` is the position of the decisive answer, and `transfers` what is sent and waited until it
  is there. `Decides` is what a call makes of a response or of a fault of the transport, and `Settles`
  what it makes of any answer.
* `Speaks`: the failure of a response can be put into words, `Dispatcher.exists_failureOf_iff`.
* `Requestable` says that a request can be made of a call, and `Makes` what it is made of:
  `Dispatcher.exists_request_iff`, `Dispatcher.makes_of_request`.
* `Conclusive`: a decisive answer leads to a result, `Settles.exists_result_iff`.
* `outcome_attempt`: attempts end with the decisive answer, or for want of a pause.
* `ends_dispatch`, `dispatch_retries`: how a call over HTTP ends.
-/

namespace RouteSchema

open Stateful

namespace Http

/-- Whether an answer is a failure of the server or of the transport. -/
def Exchange.isPassing : Exchange → Bool
  | .reply r => r.status ≥ 500
  | .fault kind _ => kind.isTransport
  | .badAddress _ => false

/-- Whether an answer is a response or a fault of the transport. -/
def Exchange.isOrdinary : Exchange → Bool
  | .reply _ => true
  | .fault kind _ => kind.isTransport
  | .badAddress _ => false

/-- The answer to the request at a position, counted from zero. Behind its end a script goes on with
its last answer, and an empty one with empty responses. -/
def answerAt (script : List Exchange) (i : Nat) : Exchange :=
  script.getD i (script.getLastD (.reply ⟨200, [], []⟩))

/-- Whether the answer at a position calls for another attempt, and there can be a pause before it.
The first answer is followed by a pause of `2 ^ waits` seconds. -/
def goesOn [Platform] (script : List Exchange) (waits i : Nat) : Bool :=
  (answerAt script i).isPassing && Platform.canPause (Nat.pow 2 (waits + i))

/-- The position of the answer that ends attempts of which `left` may be repeated. -/
def stopAt [Platform] (script : List Exchange) (waits left : Nat) : Nat :=
  (List.range left).findIdx (!goesOn script waits ·)

/-- The position of the decisive answer when a request is repeated at most `retries` times. -/
def decisive [Platform] (script : List Exchange) (retries : Nat) : Nat := stopAt script 0 retries

end Http

open Http

/-- A request sent until the answer at a position is there, with the waits between, the first of
them `2 ^ waits` seconds. -/
def transfers (r : Request) (waits : Nat) : (position : Nat) → List Act
  | 0 => [.request r]
  | position + 1 => .request r :: .pause (Nat.pow 2 waits) :: transfers r (waits + 1) position

/-- What is raised where there can be no pause. -/
def sleepless : Failure := .overflow "timestamp too large to convert"

section

variable [Platform]

/-- The failure of a response can be put into words: its body is read, and what it says has a
text. -/
def Speaks (r : Response) : Prop :=
  ∃ said, Dispatcher.complaint r = .ok said ∧ (said.truthy = true → said.HasText)

/-- What a call of an endpoint makes of the decisive answer after a number of attempts. -/
inductive Decides (id : String) (attempts : Nat) : Exchange → Except Failure Response → Prop
  | success {r : Response} (status : r.status < 400) : Decides id attempts (.reply r) (.ok r)
  | refusal {r : Response} {message : String} (status : 400 ≤ r.status)
      (words : Dispatcher.failureOf id r = .ok (.dispatch message (some r.status) (some r))) :
      Decides id attempts (.reply r) (.error (.dispatch message (some r.status) (some r)))
  | exhaustion {kind : NetworkFault} {detail : String} (transport : kind.isTransport = true) :
      Decides id attempts (.fault kind detail) (.error (.dispatch
        (id ++ ": connection failed after " ++ toString attempts ++ " attempt(s): " ++ detail)
        none none))

/-- How a call ends for the decisive answer and its position: with a result, or with a fault that is
raised. -/
inductive Settles (id : String) (retries position : Nat) :
    Exchange → Except Failure (Except Failure Response) → Prop
  | result {e : Exchange} {result : Except Failure Response} (h : Decides id (position + 1) e result)
      (last : e.isPassing = true → position = retries) :
      Settles id retries position e (.ok result)
  | wordless {r : Response} {f : Failure} (status : 400 ≤ r.status)
      (last : r.status ≥ 500 → position = retries) (fails : Dispatcher.failureOf id r = .error f) :
      Settles id retries position (.reply r) (.error f)
  | sleepless {e : Exchange} (passing : e.isPassing = true) (more : position < retries)
      (long : Platform.canPause (Nat.pow 2 position) = false) :
      Settles id retries position e (.error sleepless)
  | fault {kind : NetworkFault} {detail : String} (outside : kind.isTransport = false) :
      Settles id retries position (.fault kind detail) (.error (.network kind detail))
  | badAddress (detail : String) :
      Settles id retries position (.badAddress detail) (.error (.badAddress detail))

/-- A decisive answer leads to a result: it is a response or a fault of the transport, no attempt is
left after a failure, and the failure of a response can be put into words. -/
structure Conclusive (retries position : Nat) (e : Exchange) : Prop where
  ordinary : e.isOrdinary = true
  last : e.isPassing = true → position = retries
  speaks : ∀ r, e = .reply r → 400 ≤ r.status → Speaks r

end

/-- What may be read as a mapping: it is not there, or counts as empty, or stands for one. -/
def Mappable (v : Option Value) : Prop :=
  ∀ w, v = some w → w.truthy = true → ∃ es, w.mapping = .ok es

section

variable [Platform]

/-- What may be read as a mapping between texts: it may be read as a mapping, and all its keys and
values have a text. -/
def TextMappable (v : Option Value) : Prop :=
  ∀ w, v = some w → w.truthy = true →
    ∃ es, w.mapping = .ok es ∧ ∀ e ∈ es, e.1.HasText ∧ e.2.HasText

/-- What is needed to make a request of a call: a pattern that is accepted, a path template that is a
text, a method with a text, and mappings in the places of headers and query, that of headers with
texts. -/
structure Requestable (d : Dispatcher) (c : Call) : Prop where
  pattern : ∃ p, Pattern.of d.pattern = .ok p
  path : ∃ template, (c.attributes.getText? "path_template").getD (.text "") = .text template
  method : ((c.attributes.getText? "method").getD (.text "GET")).HasText
  own : TextMappable (c.attributes.getText? "headers")
  called : TextMappable (c.options.getText? "headers")
  query : Mappable (c.attributes.getText? "query")

/-- What a request is made of. -/
structure Makes (d : Dispatcher) (c : Call) (r : Request) : Prop where
  method : r.method = Text.upper ((c.attributes.getText? "method").getD (.text "GET")).display
  address : r.address = c.address
  headers : Dispatcher.headers c = .ok r.headers
  params : ∃ names, d.pathNames c = .ok names ∧ Dispatcher.query names c = .ok r.params
  body : r.body = Dispatcher.body c
  timeout : r.timeout = Dispatcher.option? c "timeout"

end

/-! ## Requests -/

theorem mappable_none : Mappable none := fun _ h => by cases h

theorem textMappable_none [Platform] : TextMappable none := fun _ h => by cases h

theorem Mappable.query {c : Call} (h : Mappable (c.attributes.getText? "query"))
    (names : List (Option String)) : ∃ params, Dispatcher.query names c = .ok params := by
  unfold Dispatcher.query
  cases given : c.attributes.getText? "query" with
  | none => exact ⟨_, rfl⟩
  | some w =>
    cases full : w.truthy with
    | false => exact ⟨_, by simp [full]; rfl⟩
    | true =>
      obtain ⟨es, mapping⟩ := h w given full
      exact ⟨_, by simp [full, mapping]; rfl⟩

namespace Dispatcher

variable {d : Dispatcher} {c : Call}

theorem exists_query_iff {names : List (Option String)} :
    (∃ params, query names c = .ok params) ↔ Mappable (c.attributes.getText? "query") := by
  refine ⟨?_, fun h => h.query names⟩
  rintro ⟨params, read⟩ w given full
  unfold query at read
  rw [given] at read
  dsimp only at read
  rw [if_pos full] at read
  obtain ⟨es, mapping, -⟩ := Outcome.bind_eq_ok.1 read
  exact ⟨es, mapping⟩

variable [Platform]

theorem makes_of_request {r : Request} (h : d.request c = .ok r) : Makes d c r := by
  obtain ⟨method, verb, h⟩ := Outcome.bind_eq_ok.1 h
  obtain ⟨headers, own, h⟩ := Outcome.bind_eq_ok.1 h
  obtain ⟨names, named, h⟩ := Outcome.bind_eq_ok.1 h
  obtain ⟨params, queried, h⟩ := Outcome.bind_eq_ok.1 h
  obtain ⟨-, rfl⟩ := Value.asText_eq_ok.1 verb
  cases h
  exact ⟨rfl, rfl, own, ⟨names, named, queried⟩, rfl, rfl⟩

theorem textEntry_eq_ok_iff {e : Value × Value} {entry : String × String} :
    textEntry e = .ok entry ↔
      (e.1.HasText ∧ e.2.HasText) ∧ (e.1.display, e.2.display) = entry := by
  constructor
  · intro h
    obtain ⟨key, named, h⟩ := Outcome.bind_eq_ok.1 h
    obtain ⟨value, shown, ⟨⟩⟩ := Outcome.bind_eq_ok.1 h
    obtain ⟨has, rfl⟩ := Value.asText_eq_ok.1 named
    obtain ⟨has', rfl⟩ := Value.asText_eq_ok.1 shown
    exact ⟨⟨has, has'⟩, rfl⟩
  · rintro ⟨⟨has, has'⟩, rfl⟩
    exact Outcome.bind_eq_ok.2 ⟨_, has.asText, Outcome.bind_eq_ok.2 ⟨_, has'.asText, rfl⟩⟩

theorem mapM_textEntry_eq_ok_iff {es : Dict} {entries : List (String × String)} :
    es.mapM textEntry = .ok entries ↔
      (∀ e ∈ es, e.1.HasText ∧ e.2.HasText) ∧
        es.map (fun e => (e.1.display, e.2.display)) = entries :=
  Outcome.mapM_eq_ok_iff_of fun _ _ => textEntry_eq_ok_iff

theorem exists_texts_iff {v : Option Value} : (∃ m, texts v = .ok m) ↔ TextMappable v := by
  have each (es : Dict) : (∃ m, (do return Assoc.ofList (← es.mapM textEntry) :
      Except Failure (Assoc String String)) = .ok m) ↔ ∀ e ∈ es, e.1.HasText ∧ e.2.HasText := by
    constructor
    · rintro ⟨m, h⟩
      obtain ⟨ys, read, -⟩ := Outcome.bind_eq_ok.1 h
      exact (mapM_textEntry_eq_ok_iff.1 read).1
    · intro all
      exact ⟨_, Outcome.bind_eq_ok.2 ⟨_, mapM_textEntry_eq_ok_iff.2 ⟨all, rfl⟩, rfl⟩⟩
  cases v with
  | none => exact ⟨fun _ _ h => (by cases h), fun _ => ⟨[], rfl⟩⟩
  | some w =>
    cases full : w.truthy with
    | false =>
      refine ⟨fun _ w' same truthy => ?_, fun _ => ⟨[], by simp [texts, full]⟩⟩
      cases same
      cases full.symm.trans truthy
    | true =>
      rw [texts, if_pos full]
      constructor
      · rintro ⟨m, h⟩ _ ⟨⟩ -
        obtain ⟨es, mapping, h⟩ := Outcome.bind_eq_ok.1 h
        exact ⟨es, mapping, (each es).1 ⟨m, h⟩⟩
      · intro h
        obtain ⟨es, mapping, all⟩ := h w rfl full
        obtain ⟨m, read⟩ := (each es).2 all
        exact ⟨m, Outcome.bind_eq_ok.2 ⟨es, mapping, read⟩⟩

theorem exists_pathNames_iff : (∃ names, d.pathNames c = .ok names) ↔
    (∃ p, Pattern.of d.pattern = .ok p) ∧
      ∃ template, (c.attributes.getText? "path_template").getD (.text "") = .text template := by
  unfold pathNames
  constructor
  · rintro ⟨names, read⟩
    obtain ⟨p, readable, read⟩ := Outcome.bind_eq_ok.1 read
    split at read
    · exact ⟨⟨p, readable⟩, _, ‹_›⟩
    · cases read
  · rintro ⟨⟨p, readable⟩, template, path⟩
    exact ⟨p.names template, Outcome.bind_eq_ok.2 ⟨p, readable, by rw [path]; rfl⟩⟩

/-- A request can be made of a call exactly if it has what is needed. -/
theorem exists_request_iff : (∃ r, d.request c = .ok r) ↔ Requestable d c := by
  constructor
  · rintro ⟨r, made⟩
    obtain ⟨-, -, heads, ⟨names, named, params⟩, -⟩ := makes_of_request made
    obtain ⟨_, verb, -⟩ := Outcome.bind_eq_ok.1 made
    obtain ⟨_, own, heads⟩ := Outcome.bind_eq_ok.1 heads
    obtain ⟨_, called, -⟩ := Outcome.bind_eq_ok.1 heads
    obtain ⟨pattern, path⟩ := exists_pathNames_iff.1 ⟨names, named⟩
    exact ⟨pattern, path, (Value.asText_eq_ok.1 verb).1, exists_texts_iff.1 ⟨_, own⟩,
      exists_texts_iff.1 ⟨_, called⟩, exists_query_iff.1 ⟨_, params⟩⟩
  · rintro ⟨pattern, path, verb, own, called, query⟩
    obtain ⟨m, own⟩ := exists_texts_iff.2 own
    obtain ⟨m', called⟩ := exists_texts_iff.2 called
    obtain ⟨names, named⟩ := exists_pathNames_iff.2 ⟨pattern, path⟩
    obtain ⟨params, queried⟩ := query.query names
    have heads : headers c = .ok _ :=
      Outcome.bind_eq_ok.2 ⟨m, own, Outcome.bind_eq_ok.2 ⟨m', called, rfl⟩⟩
    exact ⟨_, Outcome.bind_eq_ok.2 ⟨_, verb.asText, Outcome.bind_eq_ok.2 ⟨_, heads,
      Outcome.bind_eq_ok.2 ⟨names, named, Outcome.bind_eq_ok.2 ⟨params, queried, rfl⟩⟩⟩⟩⟩

/-- What a response says is put into words with its status and the response itself. -/
theorem failureOf_eq_ok {id : String} {r : Response} {f : Failure}
    (h : failureOf id r = .ok f) :
    ∃ message, f = .dispatch message (some r.status) (some r) := by
  obtain ⟨message, -, rfl⟩ := Outcome.map_eq_ok.1 h
  exact ⟨message, rfl⟩

theorem exists_failureOf_iff {id : String} {r : Response} :
    (∃ f, failureOf id r = .ok f) ↔ Speaks r := by
  constructor
  · rintro ⟨f, h⟩
    obtain ⟨message, h, -⟩ := Outcome.map_eq_ok.1 h
    obtain ⟨said, read, h⟩ := Outcome.bind_eq_ok.1 h
    refine ⟨said, read, fun full => ?_⟩
    rw [if_pos full] at h
    obtain ⟨text, shown, -⟩ := Outcome.bind_eq_ok.1 h
    exact (Value.asText_eq_ok.1 shown).1
  · rintro ⟨said, read, speaks⟩
    have worded : ∃ message, words id r = .ok message := by
      rw [words, read]
      show ∃ message, (if said.truthy then _ else _) = Except.ok message
      split
      · rename_i full
        rw [(speaks full).asText]
        exact ⟨_, rfl⟩
      · exact ⟨_, rfl⟩
    obtain ⟨message, h⟩ := worded
    exact ⟨_, Outcome.map_eq_ok.2 ⟨message, h, rfl⟩⟩

theorem excerpt_eq_error {r : Response} {f : Failure} (h : excerpt r = .error f) :
    ∃ breakdown, f = .broken breakdown := by
  obtain ⟨breakdown, -, rfl⟩ := Outcome.mapError_eq_error.1 h
  exact ⟨breakdown, rfl⟩

/-- What cannot be put into words fails with the platform, or with a value that has no text. -/
theorem failureOf_eq_error {id : String} {r : Response} {f : Failure}
    (h : failureOf id r = .error f) : f.IsWordless ∨ ∃ breakdown, f = .broken breakdown := by
  rcases Outcome.bind_eq_error.1 (Outcome.map_eq_error.1 h) with h | ⟨said, -, h⟩
  · unfold complaint at h
    split at h
    · cases h
      exact .inr ⟨_, rfl⟩
    · cases h
    · split at h
      · exact .inr (excerpt_eq_error h)
      · exact .inl ⟨_, Outcome.map_eq_error.1 h⟩
    · exact .inr (excerpt_eq_error h)
  · split at h
    · rcases Outcome.bind_eq_error.1 h with h | ⟨_, -, ⟨⟩⟩
      exact .inl ⟨said, h⟩
    · cases h

theorem exitCode?_of_failureOf {id : String} {r : Response} {f : Failure}
    (h : failureOf id r = .error f) : f.exitCode? = none := by
  rcases failureOf_eq_error h with wordless | ⟨breakdown, rfl⟩
  · exact wordless.exitCode?
  · rfl

end Dispatcher

/-- A request can be made of a call with a readable path template, a method, and mappings where
there have to be some. -/
theorem exists_request [Platform] {d : Dispatcher} {c : Call} {p : Pattern}
    {template method : String} (pattern : Pattern.of d.pattern = .ok p)
    (path : c.attributes.getText? "path_template" = some (.text template))
    (verb : c.attributes.getText? "method" = some (.text method))
    (own : TextMappable (c.attributes.getText? "headers"))
    (called : TextMappable (c.options.getText? "headers"))
    (query : Mappable (c.attributes.getText? "query")) : ∃ r, d.request c = .ok r := by
  refine Dispatcher.exists_request_iff.2
    ⟨⟨p, pattern⟩, ⟨template, by rw [path, Option.getD_some]⟩, ?_, own, called, query⟩
  rw [verb]
  exact Value.hasText_text method

/-! ## Answers of a script -/

theorem nextAnswer_fst (script : List Exchange) :
    (RunM.nextAnswer script).1 = answerAt script 0 := by
  rcases script with _ | ⟨e, _ | ⟨e', rest⟩⟩ <;> rfl

theorem answerAt_nextAnswer (script : List Exchange) (i : Nat) :
    answerAt (RunM.nextAnswer script).2 i = answerAt script (i + 1) := by
  rcases script with _ | ⟨e, _ | ⟨e', rest⟩⟩
  · rfl
  · cases i <;> rfl
  · rfl

section

variable [Platform]

theorem goesOn_nextAnswer (script : List Exchange) (waits i : Nat) :
    goesOn (RunM.nextAnswer script).2 (waits + 1) i = goesOn script waits (i + 1) := by
  rw [goesOn, goesOn, answerAt_nextAnswer, Nat.add_assoc, Nat.add_comm 1 i]

theorem stopAt_succ (script : List Exchange) (waits left : Nat) :
    stopAt script waits (left + 1) =
      if goesOn script waits 0 then stopAt (RunM.nextAnswer script).2 (waits + 1) left + 1
      else 0 := by
  rw [stopAt, stopAt, List.range_succ_eq_map, List.findIdx_cons, List.findIdx_map]
  cases goesOn script waits 0 with
  | false => rfl
  | true =>
    simp only [goesOn_nextAnswer]
    rfl

theorem decisive_le (script : List Exchange) (retries : Nat) :
    decisive script retries ≤ retries := by
  rw [decisive, stopAt]
  exact Nat.le_trans List.findIdx_le_length (Nat.le_of_eq List.length_range)

/-- The decisive answer calls for another attempt only if none is left, or if there can be no pause
before that. -/
theorem goesOn_decisive {script : List Exchange} {retries : Nat}
    (more : decisive script retries < retries) :
    goesOn script 0 (decisive script retries) = false := by
  have inside : (List.range retries).findIdx (!goesOn script 0 ·) < (List.range retries).length :=
    List.length_range.symm ▸ more
  have here := List.findIdx_getElem (w := inside)
  rw [List.getElem_range, Bool.not_eq_true'] at here
  exact here

end

/-! ## Attempts -/

theorem filterMap_request?_filter (acts : List Act) :
    (acts.filter Act.isTransfer).filterMap Act.request? = acts.filterMap Act.request? := by
  rw [List.filterMap_filter]
  refine congrArg (List.filterMap · acts) (funext fun a => ?_)
  cases a <;> rfl

theorem requests_transfers (r : Request) (waits position : Nat) :
    (transfers r waits position).filterMap Act.request? = List.replicate (position + 1) r := by
  induction position generalizing waits with
  | zero => rfl
  | succ position ih =>
    show r :: (transfers r (waits + 1) position).filterMap Act.request? = _
    rw [ih, ← List.replicate_succ]

theorem requests_of_transfers {r : Request} {waits position : Nat} {acts : List Act}
    (h : acts.filter Act.isTransfer = transfers r waits position) :
    acts.filterMap Act.request? = List.replicate (position + 1) r := by
  rw [← filterMap_request?_filter, h, requests_transfers]

theorem isSome_retryReason? (e : Exchange) :
    (Dispatcher.retryReason? e).isSome = e.isPassing := by
  cases e with
  | reply r =>
    by_cases h : r.status ≥ 500 <;> simp [Dispatcher.retryReason?, Exchange.isPassing, h]
  | fault kind detail =>
    cases h : kind.isTransport <;> simp [Dispatcher.retryReason?, Exchange.isPassing, h]
  | badAddress detail => rfl

/-- A note neither sends nor waits. -/
theorem note_idles (report : Report) (channel message : String) :
    ∃ log : List Act, log.filter Act.isTransfer = [] ∧
      ∀ s, outcome (RunM.note report channel message) s =
        (.ok (), { s with trace := s.trace ++ log }) := by
  obtain ⟨log, logs, noted⟩ := RunM.note_grows report channel message
  exact ⟨log, List.filter_eq_nil_iff.2 fun a ha => logs a ha ▸ Bool.false_ne_true, noted⟩

section

variable [Platform]

/-- What attempts of which `left` may be repeated end with: with the answer that ends them, unless
it calls for another attempt and some are left. -/
def attempted (script : List Exchange) (waits left : Nat) : Except Failure Exchange :=
  if (answerAt script (stopAt script waits left)).isPassing ∧ stopAt script waits left < left then
    .error sleepless
  else .ok (answerAt script (stopAt script waits left))

theorem attempted_of_stop {script : List Exchange} {waits left : Nat}
    (stop : goesOn script waits 0 = false) : attempted script waits (left + 1) =
      if (answerAt script 0).isPassing then .error sleepless else .ok (answerAt script 0) := by
  rw [attempted, stopAt_succ, stop, if_neg Bool.false_ne_true]
  simp only [Nat.zero_lt_succ, and_true]

theorem attempted_of_goesOn {script : List Exchange} {waits left : Nat}
    (on : goesOn script waits 0 = true) : attempted script waits (left + 1) =
      attempted (RunM.nextAnswer script).2 (waits + 1) left := by
  rw [attempted, attempted, stopAt_succ, on, if_pos rfl, answerAt_nextAnswer]
  simp only [Nat.add_lt_add_iff_right]

section

variable {d : Dispatcher} {s : Run} {left : Nat}

/-- An attempt whose answer is not followed by another one sends the request once, and ends with the
answer or for want of a pause. -/
theorem outcome_attempt_of_stop (r : Request)
    (stop : goesOn s.script (d.transport.retries - (left + 1)) 0 = false) :
    ∃ log s', log.filter Act.isTransfer = [] ∧ s'.trace = s.trace ++ .request r :: log ∧
      outcome (d.attempt r (left + 1)) s =
        (if (answerAt s.script 0).isPassing then .error sleepless else .ok (answerAt s.script 0),
          s') := by
  have before : d.transport.retries - left - 1 = d.transport.retries - (left + 1) := by omega
  have reasons := isSome_retryReason? (answerAt s.script 0)
  have sent := RunM.outcome_send s r
  rw [nextAnswer_fst] at sent
  rw [Dispatcher.attempt, outcome_bind_ok sent]
  cases found : Dispatcher.retryReason? (answerAt s.script 0) with
  | none =>
    rw [found] at reasons
    rw [← reasons]
    exact ⟨[], _, rfl, rfl, outcome_pure _ _⟩
  | some reason =>
    rw [found] at reasons
    have cannot : Platform.canPause (Nat.pow 2 (d.transport.retries - (left + 1))) = false := by
      rwa [goesOn, ← reasons, Option.isSome_some, Bool.true_and] at stop
    obtain ⟨log, quiet, noted⟩ := note_idles d.report Dispatcher.channel
      (reason ++ ", retrying in " ++ toString (Nat.pow 2 (d.transport.retries - (left + 1))) ++
        "s (attempt " ++ toString (d.transport.retries - left) ++ "/" ++
        toString d.transport.retries ++ ")")
    refine ⟨log, { s with
      trace := s.trace ++ [.request r] ++ log
      script := (RunM.nextAnswer s.script).2 }, quiet, (List.append_cons _ _ log).symm, ?_⟩
    dsimp only
    rw [before, outcome_bind_ok (noted _), Dispatcher.pause, cannot, if_neg Bool.false_ne_true,
      outcome_bind_error (RunM.outcome_throw _ _), ← reasons]
    rfl

/-- An attempt whose answer is followed by another one sends the request once, waits, and goes on. -/
theorem outcome_attempt_of_goesOn (r : Request)
    (on : goesOn s.script (d.transport.retries - (left + 1)) 0 = true) :
    ∃ log, log.filter Act.isTransfer = [] ∧
      outcome (d.attempt r (left + 1)) s = outcome (d.attempt r left)
        { s with
          trace := s.trace ++
            (.request r :: log ++ [.pause (Nat.pow 2 (d.transport.retries - (left + 1)))])
          script := (RunM.nextAnswer s.script).2 } := by
  have before : d.transport.retries - left - 1 = d.transport.retries - (left + 1) := by omega
  rw [goesOn, Bool.and_eq_true, Nat.add_zero] at on
  obtain ⟨reason, found⟩ :=
    Option.isSome_iff_exists.1 ((isSome_retryReason? (answerAt s.script 0)).trans on.1)
  have sent := RunM.outcome_send s r
  rw [nextAnswer_fst] at sent
  obtain ⟨log, quiet, noted⟩ := note_idles d.report Dispatcher.channel
    (reason ++ ", retrying in " ++ toString (Nat.pow 2 (d.transport.retries - (left + 1))) ++
      "s (attempt " ++ toString (d.transport.retries - left) ++ "/" ++
      toString d.transport.retries ++ ")")
  refine ⟨log, quiet, ?_⟩
  rw [Dispatcher.attempt, outcome_bind_ok sent, found]
  dsimp only
  rw [before, outcome_bind_ok (noted _), Dispatcher.pause, on.2, if_pos rfl,
    outcome_bind_ok (RunM.outcome_act _ _)]
  simp only [List.append_assoc, List.cons_append, List.nil_append]

end

/-- Attempts end with the decisive answer or for want of a pause, and send the request and wait until
then. -/
theorem outcome_attempt (d : Dispatcher) (r : Request) (left : Nat) (s : Run)
    (some_left : left ≤ d.transport.retries) :
    ∃ acts s', outcome (d.attempt r left) s =
        (attempted s.script (d.transport.retries - left) left, s') ∧
      s'.trace = s.trace ++ acts ∧
      acts.filter Act.isTransfer =
        transfers r (d.transport.retries - left)
          (stopAt s.script (d.transport.retries - left) left) := by
  induction left generalizing s with
  | zero =>
    have sent := RunM.outcome_send s r
    rw [nextAnswer_fst] at sent
    have ends : attempted s.script (d.transport.retries - 0) 0 = .ok (answerAt s.script 0) :=
      if_neg fun h => Nat.not_lt_zero _ h.2
    exact ⟨[.request r], _, ends ▸ sent, rfl, rfl⟩
  | succ left ih =>
    have waits : d.transport.retries - left = d.transport.retries - (left + 1) + 1 := by omega
    rw [stopAt_succ]
    cases on : goesOn s.script (d.transport.retries - (left + 1)) 0 with
    | false =>
      obtain ⟨log, s', quiet, grows, ends⟩ := outcome_attempt_of_stop r on
      refine ⟨.request r :: log, s', attempted_of_stop on ▸ ends, grows, ?_⟩
      rw [List.filter_cons_of_pos rfl, quiet]
      rfl
    | true =>
      obtain ⟨log, quiet, goes⟩ := outcome_attempt_of_goesOn r on
      obtain ⟨acts, s', ends, grows, kinds⟩ := ih
        { s with
          trace := s.trace ++
            (.request r :: log ++ [.pause (Nat.pow 2 (d.transport.retries - (left + 1)))])
          script := (RunM.nextAnswer s.script).2 } (Nat.le_of_succ_le some_left)
      rw [waits] at ends kinds
      refine ⟨_, s', goes.trans (attempted_of_goesOn on ▸ ends),
        grows.trans (List.append_assoc _ _ _), ?_⟩
      rw [List.filter_append, List.filter_append, List.filter_cons_of_pos rfl, quiet, kinds]
      rfl

/-! ## Calls -/

/-- What is made of a response or of a fault of the transport after which there is no attempt. -/
theorem outcome_settles_of_last (d : Dispatcher) (id : String) {position : Nat} {e : Exchange}
    (last : e.isPassing = true → position = d.transport.retries) (s : Run) :
    ∃ result, outcome (d.outcome id e) s = (result, s) ∧
      Settles id d.transport.retries position e result := by
  cases e with
  | reply r =>
    by_cases status : r.status ≥ 400
    · have last : r.status ≥ 500 → position = d.transport.retries := fun server =>
        last (decide_eq_true server)
      rw [Dispatcher.outcome, if_pos status]
      cases words : Dispatcher.failureOf id r with
      | ok f =>
        obtain ⟨message, rfl⟩ := Dispatcher.failureOf_eq_ok words
        exact ⟨_, rfl, .result (.refusal status words) fun server =>
          last (of_decide_eq_true server)⟩
      | error f => exact ⟨_, rfl, .wordless status last words⟩
    · refine ⟨.ok (.ok r), ?_, .result (.success (by omega)) last⟩
      rw [Dispatcher.outcome, if_neg status, outcome_pure]
  | fault kind detail =>
    rw [Dispatcher.outcome]
    cases transport : kind.isTransport with
    | true =>
      have here : d.transport.retries = position := (last transport).symm
      refine ⟨_, rfl, .result ?_ last⟩
      rw [here]
      exact .exhaustion transport
    | false => exact ⟨_, RunM.outcome_throw s _, .fault transport⟩
  | badAddress detail => exact ⟨_, RunM.outcome_throw s _, .badAddress detail⟩

/-- What is made of what attempts end with. -/
theorem outcome_settles (d : Dispatcher) (id : String) {script : List Exchange}
    {attempts : RunM Exchange} {s s' : Run}
    (ends : outcome attempts s = (attempted script 0 d.transport.retries, s')) :
    ∃ result, outcome (attempts >>= d.outcome id) s = (result, s') ∧
      Settles id d.transport.retries (decisive script d.transport.retries)
        (answerAt script (decisive script d.transport.retries)) result := by
  rw [attempted, ← decisive] at ends
  split at ends
  · rename_i more
    have long : Platform.canPause (Nat.pow 2 (decisive script d.transport.retries)) = false := by
      have stop := goesOn_decisive more.2
      rwa [goesOn, more.1, Bool.true_and, Nat.zero_add] at stop
    exact ⟨_, outcome_bind_error ends _, .sleepless more.1 more.2 long⟩
  · rename_i final
    rw [outcome_bind_ok ends]
    refine outcome_settles_of_last d id (fun passing => ?_) s'
    exact Nat.le_antisymm (decisive_le _ _) (Nat.le_of_not_lt fun more => final ⟨passing, more⟩)

/-- A call that is not rehearsed ends as the decisive answer settles it, whatever the answers are. -/
theorem ends_dispatch {d : Dispatcher} {c : Call} {r : Request} (s : Run)
    (sending : d.dryRun = false) (made : d.request c = .ok r) :
    ∃ result acts s', RunM.Ends (d.dispatch c) s result acts s' ∧
      acts.filter Act.isTransfer = transfers r 0 (decisive s.script d.transport.retries) ∧
      Settles c.id d.transport.retries (decisive s.script d.transport.retries)
        (answerAt s.script (decisive s.script d.transport.retries)) result := by
  obtain ⟨acts, s', answered, grows, kinds⟩ :=
    outcome_attempt d r d.transport.retries s (Nat.le_refl _)
  rw [Nat.sub_self] at answered kinds
  obtain ⟨result, settled, settles⟩ := outcome_settles d c.id answered
  refine ⟨result, acts, s', ⟨?_, grows⟩, kinds, settles⟩
  rw [Dispatcher.dispatch, made, outcome_bind_ok (RunM.outcome_ofExcept _ _), sending]
  exact settled

/-- The result of a call is what is decided about the decisive answer. -/
theorem Settles.decides {id : String} {retries position : Nat} {e : Exchange}
    {decided : Except Failure Response} (h : Settles id retries position e (.ok decided)) :
    Decides id (position + 1) e decided := by
  cases h with
  | result decides => exact decides

/-- A call has a result exactly if its decisive answer leads to one, and then it is what is decided
about that. -/
theorem Settles.exists_result_iff {id : String} {retries position : Nat} {e : Exchange}
    {result : Except Failure (Except Failure Response)} (h : Settles id retries position e result) :
    (∃ decided, result = .ok decided ∧ Decides id (position + 1) e decided) ↔
      Conclusive retries position e := by
  constructor
  · rintro ⟨decided, rfl, -⟩
    cases h with
    | result decides last =>
      cases decides with
      | success status =>
        refine ⟨rfl, last, ?_⟩
        rintro _ ⟨⟩ failed
        exact absurd status (Int.not_lt.2 failed)
      | refusal status words =>
        refine ⟨rfl, last, ?_⟩
        rintro _ ⟨⟩ -
        exact Dispatcher.exists_failureOf_iff.1 ⟨_, words⟩
      | exhaustion transport => exact ⟨transport, last, nofun⟩
  · intro conclusive
    cases h with
    | result decides => exact ⟨_, rfl, decides⟩
    | wordless status _ fails =>
      obtain ⟨f, words⟩ := Dispatcher.exists_failureOf_iff.2 (conclusive.speaks _ rfl status)
      cases fails.symm.trans words
    | sleepless passing more => exact absurd (conclusive.last passing) (Nat.ne_of_lt more)
    | fault outside => cases outside.symm.trans conclusive.ordinary
    | badAddress => cases conclusive.ordinary

/-- What a call raises has no exit code. -/
theorem Settles.exitCode? {id : String} {retries position : Nat} {e : Exchange} {f : Failure}
    (h : Settles id retries position e (.error f)) : f.exitCode? = none := by
  cases h with
  | wordless _ _ fails => exact Dispatcher.exitCode?_of_failureOf fails
  | _ => rfl

end

/-- A server that fails, is out of reach, and then refuses a request with a body that is no text. -/
def flaky : Run where
  world := ⟨⟨"/", []⟩, [], [], fun _ => 0, fun _ => none⟩
  script :=
    [.reply ⟨503, [], []⟩, .fault .connectTimeout "timed out", .reply ⟨404, [], [0xff]⟩,
      .reply ⟨200, [], []⟩]

/-- A call with a parameter that goes into the query. -/
def listing : Call where
  id := "list"
  attributes := [(.text "method", .text "get"), (.text "path_template", .text "https://svc.com")]
  address := "https://svc.com"
  params := [(.text "page", .int 2)]
  options := []

theorem exists_request_listing [Platform] (transport : Transport) (dryRun : Bool)
    (report : Report) :
    ∃ r, Dispatcher.request ⟨transport, dryRun, .usual, report⟩ listing = .ok r := by
  have headers : listing.attributes.getText? "headers" = none := by simp [listing]
  have query : listing.attributes.getText? "query" = none := by simp [listing]
  have path : listing.attributes.getText? "path_template" = some (.text "https://svc.com") := by
    simp [listing]
  have method : listing.attributes.getText? "method" = some (.text "get") := by simp [listing]
  exact exists_request (p := .usual) rfl path method (headers ▸ textMappable_none)
    textMappable_none (query ▸ mappable_none)

/-- A refusal with a body in an encoding that makes no text. -/
def garbled : Response := ⟨404, [("Content-Type", "text/plain; charset=base64")], [0x78]⟩

end RouteSchema
