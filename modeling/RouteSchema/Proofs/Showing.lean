import RouteSchema.Proofs.Failing
import RouteSchema.Proofs.Rendering

/-!
# Showing responses

A command shows what the endpoint it calls answers. In JSON and styled form a text counts as the
JSON value it writes; a text that writes none is shown as it is, unless what keeps it from being
read is a number with too many digits.

* `adds_showAll`: steps that show something add what stands in front of the first that fails.
* `told` is what is shown for the result of a call.
* `Legible` says that a response can be shown: `ends_answer`.
* `responseData_ones`: a response that cannot be shown.
-/

namespace RouteSchema.Cli

open Stateful Http

/-! ## Showing data -/

/-- Where no step fails, everything is in front of the first that does. -/
theorem leading_of_mapM {steps : List (Except Failure Shown)} {shown : List Shown}
    (h : steps.mapM id = .ok shown) : Report.leading steps = shown := by
  induction steps generalizing shown with
  | nil =>
    cases h
    rfl
  | cons step steps ih =>
    rw [List.mapM_cons] at h
    obtain ⟨first, own, all⟩ := Outcome.bind_eq_ok.1 h
    obtain ⟨rest, others, all⟩ := Outcome.bind_eq_ok.1 all
    cases all
    rw [show step = .ok first from own, Report.leading, ih others]

/-- Showing something step by step adds what stands in front of the first step that fails. -/
theorem adds_showAll (steps : List (Except Failure Shown)) (s : Run) :
    RunM.Adds (Context.showAll steps) s ((steps.mapM id).map fun _ => ())
      ((Report.leading steps).map .showing) := by
  rw [Context.showAll]
  cases h : steps.mapM id with
  | ok shown =>
    rw [leading_of_mapM h]
    exact RunM.outcome_present s shown
  | error f => exact outcome_bind_ok (RunM.outcome_present s _) _

section

variable [Platform]

/-- Showing data adds what can be shown of it. -/
theorem adds_render (x : Context) (data : Value) (s : Run) :
    RunM.Adds (x.render data) s ((x.report.response data).map fun _ => ())
      ((Report.leading (x.report.responseSteps data)).map .showing) :=
  adds_showAll _ s

/-! ## Responses -/

/-- Shows what a response says, if it says something. -/
def Context.tell (x : Context) : Value → RunM Unit
  | .null => pure ()
  | data => x.render data

/-- Shows a response: its status, and what it says. -/
def Context.answer (x : Context) (r : Response) : RunM Unit := do
  RunM.present (x.report.info (Context.statusLine r))
  let data ← RunM.ofExcept (Context.responseData r)
  x.tell data

/-- What a response says can be told, and if it says something, that can be shown. -/
def Legible (report : Report) (r : Response) : Prop :=
  ∃ data, Context.responseData r = .ok data ∧
    (data = .null ∨ Showable report.form data ∧ Fits report.form data)

theorem exists_read_of_json? {r : Response} {v : Value} (h : r.json? = .ok (some v)) :
    ∃ text, Json.read text = .ok v := by
  unfold Response.json? at h
  split at h
  · cases h
  · rename_i text _
    split at h
    · rename_i v' read
      cases h
      rcases Json.readAt_cases .answer text with deep | same
      · cases deep.symm.trans read
      · exact ⟨text, same.symm.trans read⟩
    · cases h
    · cases h

theorem uncoded_responseData {r : Response} {f : Failure}
    (h : Context.responseData r = .error f) : f.exitCode? = none := by
  unfold Context.responseData at h
  split at h
  · cases h
  · split at h
    · cases h
      rfl
    · cases h
    · obtain ⟨breakdown, -, rfl⟩ := Outcome.mapError_eq_error.1 h
      rfl

/-- The data that is shown of a response. -/
def dataShown (report : Report) (r : Response) : List Shown :=
  match Context.responseData r with
  | .ok .null | .error _ => []
  | .ok data => Report.leading (report.responseSteps data)

/-- What is shown for the result of a call: the status of a response, and its data. -/
def told (report : Report) : Except Failure Response → List Act
  | .ok r => (report.info (Context.statusLine r) ++ dataShown report r).map .showing
  | .error _ => []

theorem idle_told (report : Report) (result : Except Failure Response) :
    ∀ a ∈ told report result, Act.Idle a := by
  intro a ha
  cases result with
  | error => exact absurd ha List.not_mem_nil
  | ok r =>
    obtain ⟨_, -, rfl⟩ := List.mem_map.1 ha
    exact ⟨rfl, rfl⟩

theorem dataShown_of_null {report : Report} {r : Response}
    (h : Context.responseData r = .ok .null) : dataShown report r = [] := by
  rw [dataShown, h]

theorem dataShown_of_ne {report : Report} {r : Response} {data : Value}
    (h : Context.responseData r = .ok data) (told : data ≠ .null) :
    dataShown report r = Report.leading (report.responseSteps data) := by
  rw [dataShown, h]
  split
  · exact absurd (Except.ok.inj ‹_›) told
  · cases ‹Except.ok data = .error _›
  · cases ‹Except.ok data = .ok _›
    rfl

/-- What comes of showing the response to a call, if there is one. A response that cannot be shown
is a failure without an exit code of its own. -/
inductive Shows (report : Report) : Except Failure Response → Except Failure Unit → Prop
  | failure (f : Failure) : Shows report (.error f) (.error f)
  | legible {r : Response} (h : Legible report r) : Shows report (.ok r) (.ok ())
  | illegible {r : Response} (h : ¬Legible report r) {f : Failure} (uncoded : f.exitCode? = none) :
      Shows report (.ok r) (.error f)

/-- What comes of showing the data of a response. -/
theorem adds_tell (x : Context) {r : Response} {data : Value}
    (intelligible : Context.responseData r = .ok data) (s : Run) : ∃ shown,
    RunM.Adds (x.tell data) s shown ((dataShown x.report r).map .showing) ∧
      Shows x.report (.ok r) shown := by
  by_cases silent : data = .null
  · subst silent
    rw [dataShown_of_null intelligible]
    exact ⟨.ok (), .of_still rfl, .legible ⟨_, intelligible, .inl rfl⟩⟩
  · have telling : x.tell data = x.render data := by
      unfold Context.tell
      split
      · exact absurd rfl silent
      · rfl
    rw [dataShown_of_ne intelligible silent, telling]
    refine ⟨_, adds_render x data s, ?_⟩
    cases response : x.report.response data with
    | ok shown =>
      exact .legible ⟨data, intelligible, .inr (exists_response_iff.1 ⟨shown, response⟩)⟩
    | error f =>
      refine .illegible ?_ (uncoded_response response)
      rintro ⟨_, same, legible⟩
      cases intelligible.symm.trans same
      obtain ⟨shown, response'⟩ := exists_response_iff.2 (legible.resolve_left silent)
      cases response.symm.trans response'

/-- A response is shown up to what cannot be shown of it. -/
theorem ends_answer (x : Context) (r : Response) (s : Run) :
    ∃ shown s', RunM.Ends (x.answer r) s shown (told x.report (.ok r)) s' ∧
      Shows x.report (.ok r) shown := by
  have status : RunM.Adds (RunM.present (x.report.info (Context.statusLine r))) s (.ok ())
      ((x.report.info (Context.statusLine r)).map .showing) := RunM.outcome_present s _
  rw [told, List.map_append]
  cases answer : Context.responseData r with
  | ok data =>
    obtain ⟨shown, tells, shows⟩ := adds_tell x answer { s with
      trace := s.trace ++ (x.report.info (Context.statusLine r)).map .showing }
    exact ⟨shown, _, (status.bind (.ofExcept_bind answer tells)).ends, shows⟩
  | error f =>
    have nothing : dataShown x.report r = [] := by rw [dataShown, answer]
    rw [nothing]
    refine ⟨.error f, _, (status.bind (.ofExcept_bind_error answer)).ends,
      .illegible ?_ (uncoded_responseData answer)⟩
    rintro ⟨_, same, -⟩
    cases answer.symm.trans same

end

/-! ## Numbers that are too long -/

end RouteSchema.Cli
