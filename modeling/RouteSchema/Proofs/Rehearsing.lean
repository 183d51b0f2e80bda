import RouteSchema.Proofs.Placing
import RouteSchema.Proofs.Settling

/-!
# Rehearsing calls

A dry run makes the request of a call, tells it line by line, and answers the call without sending
anything. What it tells is what a run that is not dry sends first.

* `Lists` says which lines list a request.
* `Report.tells` is how lines are told: each of them by a message of its own, or none of them if the
  report is quiet. A colourless report prints them as they are: `Report.tells_of_colourless`.
* `Dispatcher.adds_rehearse`: a rehearsal tells the lines of its request and does nothing else.
* `rehearsal_lists`: the dry run of a call against the run that sends it.
-/

namespace RouteSchema

open Stateful Http

section

variable [Platform]

/-- The line of a body: a text as it is under `content`, and the JSON text of any other body. -/
inductive BodyLine : String × Value → String → Prop
  | content (text : String) : BodyLine ("content", .text text) ("  Body (content): " ++ text)
  | json {kind : String} {v : Value} {text : String} (other : kind ≠ "content")
      (written : Json.writeText .strict v = .ok text) :
      BodyLine (kind, v) ("  Body (" ++ kind ++ "): " ++ text)

/-- The lines that list a request: verb and address, then its headers, its parameters and its bodies,
each in their order. -/
inductive Lists (r : Request) : List String → Prop
  | intro {bodies : List String} (written : List.Forall₂ BodyLine r.body bodies) :
      Lists r (("[dry-run] " ++ r.method ++ " " ++ r.address) ::
        (r.headers.map (fun e => "  Header: " ++ e.1 ++ ": " ++ e.2) ++
          r.params.map (fun e => "  Param: " ++ e.1.display ++ "=" ++ e.2.display) ++ bodies))

end

/-- How lines are told: each of them is an informational message. -/
def Report.tells (r : Report) (lines : List String) : List Act :=
  (lines.flatMap r.info).map .showing

theorem Report.tells_append (r : Report) (lines more : List String) :
    r.tells (lines ++ more) = r.tells lines ++ r.tells more := by
  rw [tells, List.flatMap_append, List.map_append, tells, tells]

theorem Report.tells_cons (r : Report) (line : String) (lines : List String) :
    r.tells (line :: lines) = r.tells [line] ++ r.tells lines :=
  r.tells_append [line] lines

theorem Report.tells_singleton (r : Report) (line : String) :
    r.tells [line] = (r.info line).map .showing := by
  rw [tells, List.flatMap_singleton]

/-- Without colour, lines are printed as they are, and nothing else is. -/
theorem Report.tells_of_colourless {r : Report} (loud : r.quiet = false)
    (colourless : r.colourless = true) (lines : List String) :
    r.tells lines = lines.map fun line => .showing (.err (line ++ "\n")) := by
  have line (text : String) : r.info text = [.err (text ++ "\n")] := by
    rw [info, loud, if_neg Bool.false_ne_true, message, if_pos colourless]
  rw [tells, funext line, ← List.map_eq_flatMap, List.map_map]
  rfl

namespace RunM.Adds

variable {γ : Type} {report : Report} {items : List γ} {lines : List String} {s : Run}
  {round : γ → PUnit → RunM (ForInStep PUnit)}

/-- A loop that shows a line in each round shows all of them. -/
theorem forIn_tells (h : List.Forall₂ (fun c line => ∀ s,
      Adds (round c ⟨⟩) s (.ok (.yield ⟨⟩)) (report.tells [line])) items lines) (s : Run) :
    Adds (forIn items ⟨⟩ round) s (.ok ⟨⟩) (report.tells lines) := by
  induction h generalizing s with
  | nil =>
    exact .of_still rfl
  | @cons c line items lines first _ ih =>
    rw [List.forIn_cons, Report.tells_cons]
    exact (first s).bind (ih _)

end RunM.Adds

namespace Dispatcher

theorem adds_tell (d : Dispatcher) (line : String) (s : Run) :
    RunM.Adds (RunM.present (d.report.info line)) s (.ok ()) (d.report.tells [line]) := by
  rw [Report.tells_singleton]
  exact RunM.outcome_present s _

variable [Platform] {d : Dispatcher} {c : Call} {r : Request}

/-- A body has a line if it is a text under `content`, and can be written as JSON under any other
name. -/
theorem exists_bodyLine {kind : String} {v : Value}
    (textual : kind = "content" → ∃ text, v = .text text)
    (writable : kind ≠ "content" → ∃ text, Json.writeText .strict v = .ok text) :
    ∃ line, BodyLine (kind, v) line := by
  by_cases content : kind = "content"
  · obtain ⟨text, rfl⟩ := textual content
    subst content
    exact ⟨_, .content text⟩
  · obtain ⟨text, written⟩ := writable content
    exact ⟨_, .json content written⟩

theorem exists_bodyText {e : String × Value} {line : String} (h : BodyLine e line) :
    ∃ text, bodyText e.1 e.2 = .ok text ∧ line = "  Body (" ++ e.1 ++ "): " ++ text := by
  cases h with
  | content text => exact ⟨text, (Value.hasText_text text).asText, rfl⟩
  | @json kind v text other written =>
    refine ⟨text, ?_, rfl⟩
    have json : (kind == "content") = false := by simpa using other
    rw [bodyText, json]
    exact written

/-- A rehearsal of a request with a sound address, whose parameters have texts, tells the lines that
list it. -/
theorem adds_rehearse (d : Dispatcher) {lines : List String} (lists : Lists r lines)
    (worded : ∀ e ∈ r.params, e.1.HasText ∧ e.2.HasText)
    (sound : Address.isSound r.address = true) (s : Run) :
    RunM.Adds (d.rehearse r) s (.ok .notSent) (d.report.tells lines) := by
  obtain @⟨bodies, written⟩ := lists
  rw [Report.tells_cons, Report.tells_append, Report.tells_append, List.append_assoc,
    ← List.append_nil (d.report.tells bodies)]
  have round (line : String) (s : Run) :
      RunM.Adds (RunM.present (d.report.info line) >>= fun _ => pure (ForInStep.yield PUnit.unit)) s
        (.ok (.yield ⟨⟩)) (d.report.tells [line]) := by
    rw [← List.append_nil (d.report.tells [line])]
    exact (d.adds_tell line s).bind (.of_still (outcome_pure _ _))
  refine (d.adds_tell _ s).bind (.bind (.forIn_tells ?_ _) (.bind (.forIn_tells ?_ _)
    (.bind (.forIn_tells ?_ _) ?_)))
  · exact List.forall₂_map_right_iff.2 (List.forall₂_same.2 fun e _ => round _)
  · refine List.forall₂_map_right_iff.2 (List.forall₂_same.2 fun e mem s => ?_)
    have entry : RunM.Adds (RunM.ofExcept (textEntry e)) s (.ok (e.1.display, e.2.display)) [] :=
      textEntry_eq_ok_iff.2 ⟨worded e mem, rfl⟩ ▸ .ofExcept _ s
    exact entry.bind (round _ _)
  · refine written.imp fun e line h s => ?_
    obtain ⟨text, made, rfl⟩ := exists_bodyText h
    have found : RunM.Adds (RunM.ofExcept (bodyText e.1 e.2)) s (.ok text) [] :=
      made ▸ .ofExcept _ s
    exact found.bind (round _ _)
  · rw [if_pos sound]
    exact .of_still (outcome_pure _ _)

/-- There are lines for a request whose bodies can be written. -/
theorem exists_lists (made : d.request c = .ok r)
    (writable : ∀ kind ∈ ["json", "data"], ∀ v, c.options.getText? kind = some v →
      ∃ text, Json.writeText .strict v = .ok text)
    (textual : ∀ v, c.options.getText? "content" = some v → v = .null ∨ ∃ text, v = .text text) :
    ∃ lines, Lists r lines := by
  have listed : ∀ e ∈ r.body, ∃ line, BodyLine e line := by
    rintro ⟨kind, v⟩ mem
    rw [(makes_of_request made).body, mem_body] at mem
    obtain ⟨known, given, other⟩ := mem
    refine exists_bodyLine ?_ fun json => writable kind ?_ v given
    · rintro rfl
      exact (textual v given).resolve_left other
    · simpa [bodyOptions, json] using known
  choose! line written using listed
  exact ⟨_, .intro (List.forall₂_map_right_iff.2 (List.forall₂_same.2 written))⟩

/-- A dry run of a call tells the lines of its request. -/
theorem adds_dispatch_of_dryRun (dry : d.dryRun = true) (made : d.request c = .ok r)
    {lines : List String} (lists : Lists r lines)
    (worded : ∀ e ∈ r.params, e.1.HasText ∧ e.2.HasText)
    (sound : Address.isSound r.address = true) (s : Run) :
    RunM.Adds (d.dispatch c) s (.ok (.ok .notSent)) (d.report.tells lines) := by
  have request : RunM.Adds (RunM.ofExcept (d.request c)) s (.ok r) [] := made ▸ .ofExcept _ s
  rw [← List.nil_append (d.report.tells lines)]
  refine request.bind ?_
  rw [if_pos dry, ← List.append_nil (d.report.tells lines)]
  exact (d.adds_rehearse lists worded sound _).bind (.of_still (outcome_pure _ _))

/-- A dry run of any call does nothing but show messages. -/
theorem confined_dispatch_of_dryRun (dry : d.dryRun = true) (c : Call) :
    RunM.Confined (fun a => ∃ m, a = .showing m) (fun _ => True) (d.dispatch c) := by
  refine .ofExcept_bind (fun _ _ => trivial) fun r _ => ?_
  rw [if_pos dry]
  exact ((confined_rehearse (fun m => ⟨m, rfl⟩) d r).mono (fun _ h => h) fun _ _ => trivial).bind
    fun _ => .pure _

end Dispatcher

/-- **A dry run lists the request that is sent first.** A dry run of any call shows messages and does
nothing else. If a request can be made of a call, the run that is not dry sends this request first; and
where its address is sound, its bodies can be written and its parameters have texts, the dry run tells
one line for each part of it but its timeout. A call that no request can be made of fails in the same
way in both runs, which do nothing. -/
theorem rehearsal_lists [Platform] (d : Dispatcher) (c : Call)
    (sound : Address.isSound c.address = true)
    (writable : ∀ kind ∈ ["json", "data"], ∀ v, c.options.getText? kind = some v →
      ∃ text, Json.writeText .strict v = .ok text)
    (textual : ∀ v, c.options.getText? "content" = some v → v = .null ∨ ∃ text, v = .text text)
    (s s' : Run) :
    let dry := { d with dryRun := true }
    let live := { d with dryRun := false }
    (∃ result acts t, RunM.Ends (dry.dispatch c) s result acts t ∧ ∀ a ∈ acts, ∃ m, a = .showing m) ∧
    (Requestable d c → ∃ r, d.request c = .ok r ∧
      (∃ result acts t, RunM.Ends (live.dispatch c) s' result acts t ∧
        (acts.filterMap Act.request?).head? = some r) ∧
      ((∀ e ∈ r.params, e.1.HasText ∧ e.2.HasText) → ∃ lines response, Lists r lines ∧
        response.status = 200 ∧
        RunM.Adds (dry.dispatch c) s (.ok (.ok response)) (d.report.tells lines) ∧
        (d.report.quiet = false → d.report.colourless = true →
          d.report.tells lines = lines.map fun line => .showing (.err (line ++ "\n"))))) ∧
    (¬Requestable d c → ∃ f, RunM.Adds (dry.dispatch c) s (.error f) [] ∧
      RunM.Adds (live.dispatch c) s' (.error f) []) := by
  intro dry live
  refine ⟨?_, fun requestable => ?_, fun unfit => ?_⟩
  · rcases ended : outcome (dry.dispatch c) s with ⟨result, t⟩
    obtain ⟨acts, ends, shows⟩ :=
      (Dispatcher.confined_dispatch_of_dryRun (d := dry) rfl c).exists_ends ended
    exact ⟨result, acts, t, ends, shows⟩
  · obtain ⟨r, made⟩ := Dispatcher.exists_request_iff.2 requestable
    obtain ⟨result, acts, t, ends, kinds, -⟩ := ends_dispatch (d := live) s' rfl made
    refine ⟨r, made, ⟨result, acts, t, ends, ?_⟩, fun worded => ?_⟩
    · rw [requests_of_transfers kinds, List.replicate_succ, List.head?_cons]
    · obtain ⟨lines, lists⟩ := Dispatcher.exists_lists made writable textual
      have sound' : Address.isSound r.address = true :=
        (Dispatcher.makes_of_request made).address ▸ sound
      exact ⟨lines, .notSent, lists, rfl,
        Dispatcher.adds_dispatch_of_dryRun (d := dry) rfl made lists worded sound' s,
        fun loud colourless => Report.tells_of_colourless loud colourless lines⟩
  · obtain ⟨f, adds⟩ := Dispatcher.adds_dispatch_of_not_requestable unfit
    exact ⟨f, adds true s, adds false s'⟩

/-- Whatever its options are, a listing asks for its page. -/
theorem params_of_listing [Platform] {d : Dispatcher} {options : Dict} {r : Request}
    (usual : d.pattern = .usual) (made : d.request { listing with options } = .ok r) :
    r.params = [(.text "page", .int 2)] := by
  have path : (listing.attributes.getText? "path_template").getD (.text "") =
      .text "https://svc.com" := by
    simp [listing]
  have stands : Stands (listing.attributes.getText? "query") [] := by
    have absent : listing.attributes.getText? "query" = none := by simp [listing]
    exact absent ▸ .absent
  have unnamed : Pattern.usual.names "https://svc.com" = [] := by decide +kernel
  have other : (Value.int 2 == .null) = false := by decide +kernel
  obtain ⟨names, named, queried⟩ := (Dispatcher.makes_of_request made).params
  obtain ⟨p, chosen, named⟩ := Outcome.bind_eq_ok.1 named
  rw [usual] at chosen
  cases chosen
  rw [path] at named
  cases named
  rw [Dispatcher.query_of_stands stands queried, unnamed]
  simp [Dispatcher.queryParams, listing, other, Assoc.overlay_cons, Assoc.overlay_nil,
    Assoc.insert]

/-- A listing with a body is rehearsed as it is sent. -/
theorem rehearsal_lists_listing :
    let _ : Platform := .usual
    let d : Dispatcher := ⟨{}, false, .usual, ⟨.json, true, false, false⟩⟩
    let c : Call :=
      { listing with options := [(.text "json", .list [.int 1]), (.text "timeout", .int 5)] }
    ∃ r lines response, Lists r lines ∧ response.status = 200 ∧
      RunM.Adds ({ d with dryRun := true }.dispatch c) flaky (.ok (.ok response))
        (lines.map fun line => .showing (.err (line ++ "\n"))) ∧
      ∃ result acts t, RunM.Ends ({ d with dryRun := false }.dispatch c) flaky result acts t ∧
        (acts.filterMap Act.request?).head? = some r := by
  intro _ d c
  have sound : Address.isSound c.address = true := by decide +kernel
  have few : Value.isShort 1 = true := by decide +kernel
  have writable : ∀ kind ∈ ["json", "data"], ∀ v, c.options.getText? kind = some v →
      ∃ text, Json.writeText .strict v = .ok text := by
    intro kind known v given
    have other : c.options.getText? "data" = none := by simp [c]
    have list : c.options.getText? "json" = some (.list [.int 1]) := by simp [c]
    rcases List.mem_pair.1 known with rfl | rfl
    · cases list.symm.trans given
      have named : Json.Named (.list [.int 1]) := .list (List.forall_mem_singleton.2 (.int few))
      exact exists_writeText_iff.2 ⟨named.writable _, fun _ _ => rfl⟩
    · cases other.symm.trans given
  have textual : ∀ v, c.options.getText? "content" = some v → v = .null ∨ ∃ text, v = .text text := by
    intro v given
    simp [c] at given
  have requestable : Requestable d c := by
    have usual := Cli.requestable_listing {} false d.report
    have missing : c.options.getText? "headers" = none := by simp [c]
    exact { usual with called := missing ▸ textMappable_none }
  obtain ⟨-, lists, -⟩ := rehearsal_lists d c sound writable textual flaky flaky
  obtain ⟨r, made, first, rehearsed⟩ := lists requestable
  have worded : ∀ e ∈ r.params, e.1.HasText ∧ e.2.HasText := by
    rw [params_of_listing rfl made]
    exact List.forall_mem_singleton.2 ⟨Value.hasText_text _, rfl, by decide +kernel⟩
  obtain ⟨lines, response, listed, status, adds, printed⟩ := rehearsed worded
  rw [printed rfl rfl] at adds
  exact ⟨r, lines, response, listed, status, adds, first⟩

/-- A call with a number in the place of its headers is not answered in a dry run, although its
address is sound and it has no bodies. -/
theorem rehearsal_refuses_number :
    let _ : Platform := .usual
    let d : Dispatcher := ⟨{}, true, .usual, ⟨.json, true, false, false⟩⟩
    let c : Call := ⟨"x", [(.text "headers", .int 5)], "https://svc.com", [], []⟩
    Address.isSound c.address = true ∧
      RunM.Adds (d.dispatch c) flaky (.error (.wrongType "'int' object is not iterable")) [] := by
  intro _ d c
  refine ⟨by decide +kernel, ?_⟩
  have headers : c.attributes.getText? "headers" = some (.int 5) := by simp [c]
  have refused : Dispatcher.headers c = .error (.wrongType "'int' object is not iterable") := by
    refine Outcome.bind_eq_error.2 (.inl ?_)
    rw [headers]
    rfl
  have request : d.request c = .error (.wrongType "'int' object is not iterable") := by
    have method : c.attributes.getText? "method" = none := by simp [c]
    refine Outcome.bind_eq_error.2 (.inr ⟨"GET", ?_, Outcome.bind_eq_error.2 (.inl refused)⟩)
    rw [method]
    exact (Value.hasText_text _).asText
  exact Dispatcher.adds_dispatch_of_error request flaky

end RouteSchema
