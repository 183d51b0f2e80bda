import RouteSchema.Proofs.Exiting
import RouteSchema.Proofs.Placing

/-!
# Bodies that requests carry

A text given as the body of a call is read as JSON. The command makes an option of the value, or of
the text itself if it is none, and the dispatcher takes the options that are not null into the
request.

* `Carries` says what a request has for a text: one body, or none where the text writes null.
* `carries_of_inputs`: what becomes of the text in the options of a call.
* `call_carries`: every request of a command line.
-/

namespace RouteSchema.Cli

open Stateful Http

/-- What a request carries for the text of a body: the JSON value that it writes, or else the text
itself. Null is taken for a missing body. -/
inductive Carries (text : String) : List (String × Value) → Prop
  | json {v : Value} (read : Json.read text = .ok v) (filled : v ≠ .null) :
      Carries text [("json", v)]
  | content {fault : Json.Fault} (unread : Json.read text = .error fault) :
      Carries text [("content", .text text)]
  | dropped (null : Json.read text = .ok .null) : Carries text []

/-- Exactly the texts that write null are dropped. -/
theorem Carries.single_iff {text : String} {body : List (String × Value)} (h : Carries text body) :
    (∃ name v, body = [(name, v)]) ↔ Json.read text ≠ .ok .null := by
  cases h with
  | json read filled =>
    have other : Json.read text ≠ .ok .null := fun null =>
      filled (Except.ok.inj (read.symm.trans null))
    exact ⟨fun _ => other, fun _ => ⟨_, _, rfl⟩⟩
  | content unread =>
    have other : Json.read text ≠ .ok .null := fun null => by cases unread.symm.trans null
    exact ⟨fun _ => other, fun _ => ⟨_, _, rfl⟩⟩
  | dropped null =>
    refine ⟨?_, fun other => absurd null other⟩
    rintro ⟨_, _, ⟨⟩⟩

variable {x : Context} {i : Invocation} {s s' : Run} {p : Preparation} {text : String}

section

variable {c : Call} {headers v : Value} {name : String}

/-- Beside the headers there is no other option. -/
theorem getText?_of_headers
    (options : c.options = [(.text "headers", headers), (.text name, v)]) {key : String}
    (body : key ∈ Dispatcher.bodyOptions) :
    c.options.getText? key = if name = key then some v else none := by
  have other : "headers" ≠ key := by
    rintro rfl
    exact absurd body (by decide)
  rw [options, Dict.getText?_cons, if_neg other, Dict.getText?_cons, Dict.getText?_nil]

/-- An option that is a body and not null is the one body. -/
theorem body_of_option (options : c.options = [(.text "headers", headers), (.text name, v)])
    (known : name ∈ Dispatcher.bodyOptions) (filled : v ≠ .null) :
    Dispatcher.body c = [(name, v)] := by
  have option : ∀ key ∈ Dispatcher.bodyOptions,
      ((Dispatcher.option? c key).map fun w => (key, w)) =
        if name = key then some (name, v) else none := by
    intro key body
    have given := getText?_of_headers options body
    split_ifs at given ⊢ with same
    · subst same
      rw [Dispatcher.option?_eq_some_iff.2 ⟨given, filled⟩]
      rfl
    · rw [Dispatcher.option?, given]
      rfl
  rw [Dispatcher.body, List.filterMap_congr option]
  simp only [Dispatcher.bodyOptions, List.mem_cons, List.not_mem_nil, or_false] at known ⊢
  rcases known with rfl | rfl | rfl <;> simp

/-- A null option is no body. -/
theorem body_of_null (options : c.options = [(.text "headers", headers), (.text name, .null)]) :
    Dispatcher.body c = [] := by
  refine List.eq_nil_iff_forall_not_mem.2 fun ⟨key, w⟩ mem => ?_
  obtain ⟨known, given, filled⟩ := Dispatcher.mem_body.1 mem
  rw [getText?_of_headers options known] at given
  split_ifs at given
  cases given
  exact filled rfl

end

theorem carries_of_inputs [Platform] {params options : Dict} (given : i.body = some text)
    (h : i.inputs = .ok (params, options)) {c : Call} (same : c.options = options) :
    Carries text (Dispatcher.body c) := by
  obtain ⟨_, -, h⟩ := Outcome.bind_eq_ok.1 h
  obtain ⟨headers, -, h⟩ := Outcome.bind_eq_ok.1 h
  obtain ⟨body, option, h⟩ := Outcome.bind_eq_ok.1 h
  cases h
  rw [given, Option.elim_some, Context.bodyOption] at option
  rcases Json.readAt_cases .body text with deep | reads
  · rw [deep] at option
    cases option
  rw [reads] at option
  split at option
  · rename_i v read
    cases option
    by_cases null : v = .null
    · subst null
      rw [body_of_null same]
      exact .dropped read
    · rw [body_of_option same (by decide) null]
      exact .json read null
  · rename_i unread
    split at option <;> cases option
    rw [body_of_option same (by decide) (by rintro ⟨⟩)]
    exact .content unread

/-- What a ready call sends has the bodies among its options. -/
theorem bodies_of_ready [Platform] {r : Resolved} (h : Ready x i s p r) (given : i.body = some text) :
    ∃ result acts s', RunM.Ends (x.run i.command) s result acts s' ∧
      ∀ request ∈ acts.filterMap Act.request?, Carries text request.body := by
  obtain ⟨address, before, log, after, -, preparing, preparing', runs⟩ := ends_of_ready h
  obtain ⟨_, _, _, prepares, -⟩ := h.prepares
  let c : Call := ⟨r.id, r.dispatchAttributes, address, p.params, p.options⟩
  let A : Act → Prop := fun a => ∀ request, a.request? = some request → Carries text request.body
  have others : ∀ a : Act, a.request? = none → a.isConnection = false → A a :=
    fun _ silent _ _ sends => by cases silent.symm.trans sends
  have recorded := Dispatcher.confined_recorded (d := x.dispatcher p.settings) (c := c) others
    fun request made sent sends => by
      cases sends
      rw [(Dispatcher.makes_of_request made).body]
      exact carries_of_inputs given prepares.inputs rfl
  have confined : RunM.Confined A (fun _ => True) (Context.sent (x.dispatcher p.settings) c) :=
    recorded.bind fun _ => .ofExcept fun _ _ => trivial
  obtain ⟨sent, sends, kinds⟩ := confined.exists_ends (s := after) rfl
  obtain ⟨shown, s', ends, -⟩ := runs sends
  refine ⟨shown, _, s', ends, fun request mem => ?_⟩
  rw [requests_of_called preparing preparing'] at mem
  obtain ⟨a, ha, sends⟩ := List.mem_filterMap.1 mem
  exact kinds a ha request sends

/-- Every request that a command line sends carries the body of its call. -/
theorem carries_of_line [Platform] (library : Library) (terminal : Bool) {args : List String}
    {shared : Shared} (s : Run) (line : Line.read args = .command shared i.command)
    (given : i.body = some text) :
    ∃ code acts s', RunM.Ends (runLine library terminal args) s (.ok code) acts s' ∧
      ∀ request ∈ acts.filterMap Act.request?, Carries text request.body := by
  let x := Context.of library terminal shared s
  have commanded : ∃ result acts s₁, RunM.Ends (x.run i.command) s result acts s₁ ∧
      ∀ request ∈ acts.filterMap Act.request?, Carries text request.body := by
    rcases halts_or_ready x i s with ⟨stage, f, halts⟩ | ⟨p, r, ready⟩
    · obtain ⟨acts, s₁, ends, stopped⟩ := ends_of_halts halts
      exact ⟨_, acts, s₁, ends, stopped.requests ▸ List.forall_mem_nil _⟩
    · exact bodies_of_ready ready given
  obtain ⟨result, acts, s₁, ends, carries⟩ := commanded
  obtain ⟨more, s', exits, idle⟩ := ends_runLine line ends
  refine ⟨_, _, s', exits, ?_⟩
  rwa [List.filterMap_append, requests_of_idle idle, List.append_nil]

/-- **A request carries the body of its call, unless that writes null.** Every request that a
command line sends has one body: the JSON value that the text of the body writes, whichever it is,
or else the text as it is. A text that writes null is dropped. -/
theorem call_carries [Platform] (library : Library) (terminal : Bool) {args : List String}
    {shared : Shared} {i : Invocation} {text : String} (s : Run)
    (line : Line.read args = .command shared i.command) (given : i.body = some text) :
    ∃ code acts s', RunM.Ends (runLine library terminal args) s (.ok code) acts s' ∧
      ∀ request ∈ acts.filterMap Act.request?, Carries text request.body ∧
        ((∃ name v, request.body = [(name, v)]) ↔ Json.read text ≠ .ok .null) := by
  obtain ⟨code, acts, s', exits, carries⟩ := carries_of_line library terminal s line given
  exact ⟨code, acts, s', exits, fun request sent =>
    ⟨carries request sent, (carries request sent).single_iff⟩⟩

/-- A call that posts a body to the board. -/
def posting (text : String) : Invocation := ⟨"m:t", "post", [], [], some text⟩

/-- The endpoint that is posted to. -/
def posted : Resolved where
  id := "post"
  path := Path.join "https://svc.com" ["posts"]
  method := .post
  attributes := [("lang", .text "en"), ("token", .text "abc")]

/-- A text that is read as JSON is an option of its value. -/
theorem bodyOption_of_read [Platform] {v : Value}
    (shallow : Platform.exhausts (.readJson .body text) = false) (read : Json.read text = .ok v) :
    Context.bodyOption text = .ok [(.text "json", v)] := by
  rw [Context.bodyOption, Json.readAt_of_shallow shallow, read]

/-- With a token, a call that posts a body is ready, and sends one request if that succeeds. -/
theorem ends_posting {body : Dict} (option : @Context.bodyOption .usual text = .ok body)
    (line : Line.read ["--json", "call", "m:t", "post", "-d", text] =
      .command asJson (posting text).command) :
    ∃ code acts s' request, RunM.Ends
      (@runLine .usual boards false ["--json", "call", "m:t", "post", "-d", text])
      (visit [("TOKEN", "abc")] [.reply ⟨200, [], []⟩]) (.ok code) acts s' ∧
      acts.filterMap Act.request? = [request] := by
  let _ : Platform := .usual
  let s := visit [("TOKEN", "abc")] [.reply ⟨200, [], []⟩]
  have inputs : (posting text).inputs = .ok ([], (.text "headers", .dict []) :: body) := by
    show (Context.bodyOption text >>= fun body => _) = _
    rw [option]
    rfl
  have ready : Ready (Context.of boards false asJson s) (posting text) s
      { preparation with options := (.text "headers", .dict []) :: body } posted :=
    { prepares := ⟨_, _, _, ⟨inputs, _, settings_of_unset rfl, outcome_compiled_boards _ _⟩, rfl,
        List.mem_cons_of_mem _ List.mem_cons_self⟩
      called := rfl
      supplied := supplied_of_names_eq_nil
        (show Pattern.usual.names posted.path = [] by decide +kernel) }
  obtain ⟨shown, acts, s₁, ends, -, -, sends⟩ := exits_of_ready ready
  obtain ⟨more, s', exits, idle⟩ := ends_runLine line ends
  obtain ⟨length, -⟩ := (sends rfl).1 ⟨textMappable_none, mappable_none⟩
  obtain ⟨request, sent⟩ := List.length_eq_one_iff.1 length
  refine ⟨_, _, s', request, exits, ?_⟩
  rw [List.filterMap_append, requests_of_idle idle, List.append_nil, sent]

/-- A list that is posted is carried. -/
theorem call_carries_list :
    let _ : Platform := .usual
    ∃ code acts s' request, RunM.Ends
      (runLine boards false ["--json", "call", "m:t", "post", "-d", "[1]"])
      (visit [("TOKEN", "abc")] [.reply ⟨200, [], []⟩]) (.ok code) acts s' ∧
      acts.filterMap Act.request? = [request] ∧ request.body = [("json", .list [.int 1])] := by
  intro _
  have line : Line.read ["--json", "call", "m:t", "post", "-d", "[1]"] =
      .command asJson (posting "[1]").command := by decide +kernel
  have read : Json.read "[1]" = .ok (.list [.int 1]) := by
    rw [Json.read]
    show Json.readChars ['[', '1', ']'] = _
    rw [Json.readChars]
    rfl
  obtain ⟨_, _, _, request, ends, sent⟩ := ends_posting (bodyOption_of_read rfl read) line
  obtain ⟨code, acts, s', ends', carries⟩ := call_carries boards false _ line rfl
  obtain ⟨-, rfl, -⟩ := ends'.unique ends
  refine ⟨code, _, s', request, ends', sent, ?_⟩
  obtain ⟨carried, -⟩ := carries request (sent ▸ List.mem_singleton_self request)
  generalize request.body = bodies at carried
  cases carried with
  | json read' =>
    cases read.symm.trans read'
    rfl
  | content unread => cases read.symm.trans unread
  | dropped null => cases read.symm.trans null

/-- Null that is posted is not carried, although it is read as JSON. -/
theorem call_drops_null :
    let _ : Platform := .usual
    Json.read "null" = .ok .null ∧ ∃ code acts s' request, RunM.Ends
      (runLine boards false ["--json", "call", "m:t", "post", "-d", "null"])
      (visit [("TOKEN", "abc")] [.reply ⟨200, [], []⟩]) (.ok code) acts s' ∧
      acts.filterMap Act.request? = [request] ∧ request.body = [] := by
  intro _
  have line : Line.read ["--json", "call", "m:t", "post", "-d", "null"] =
      .command asJson (posting "null").command := by decide +kernel
  have read : Json.read "null" = .ok .null := by
    rw [Json.read]
    show Json.readChars ['n', 'u', 'l', 'l'] = _
    rw [Json.readChars]
    rfl
  obtain ⟨_, _, _, request, ends, sent⟩ := ends_posting (bodyOption_of_read rfl read) line
  obtain ⟨code, acts, s', ends', carries⟩ := carries_of_line boards false _ line rfl
  obtain ⟨-, rfl, -⟩ := ends'.unique ends
  refine ⟨read, code, _, s', request, ends', sent, ?_⟩
  have carried := carries request (sent ▸ List.mem_singleton_self request)
  generalize request.body = bodies at carried
  cases carried with
  | json read' filled =>
    cases read.symm.trans read'
    exact absurd rfl filled
  | content unread => cases read.symm.trans unread
  | dropped => rfl

end RouteSchema.Cli
