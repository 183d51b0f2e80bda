import RouteSchema.Proofs.Sequencing
import RouteSchema.Run

/-!
# Traces of runs

A step of a run only ever adds to the trace. What it adds, and how it can fail, is told from its
parts.

* `outcome_send`, `outcome_ofEval`, `outcome_ensuring_act`, `outcome_tryCatch`: how the elementary
  steps end.
* `Ends`: how a step ends in one run, with what it adds to the trace, and `Adds`: that it does
  nothing else.
* `Confined`: a step adds acts of some kinds only and fails in some ways only, whatever run it is
  taken in.

Both are kept by taking steps in sequence.
-/

namespace RouteSchema

open Stateful

/-! ## Kinds of acts -/

namespace Act

/-- The request that an act sends. -/
def request? : Act → Option Request
  | .request r => some r
  | _ => none

/-- Whether a connection is opened or closed. -/
def isConnection : Act → Bool
  | .opening _ | .closing => true
  | _ => false

/-- Whether a request is sent or waited for. -/
def isTransfer : Act → Bool
  | .request _ | .pause _ => true
  | _ => false

end Act

namespace RunM

/-! ## Elementary steps -/

section

variable {α β : Type} (s : Run)

@[simp] theorem outcome_act (a : Act) :
    outcome (act a) s = (.ok (), { s with trace := s.trace ++ [a] }) := rfl

@[simp] theorem outcome_present (shown : List Shown) :
    outcome (present shown) s = (.ok (), { s with trace := s.trace ++ shown.map .showing }) := rfl

@[simp] theorem outcome_ofExcept (x : Except Failure α) : outcome (ofExcept x) s = (x, s) := rfl

@[simp] theorem outcome_throw (f : Failure) :
    outcome (throw f : RunM α) s = (.error f, s) := rfl

@[simp] theorem outcome_get : outcome (get : RunM Run) s = (.ok s, s) := rfl

theorem outcome_ofEval (x : Eval α) :
    outcome (ofEval x) s = ((outcome x s.world).1, { s with world := (outcome x s.world).2 }) := rfl

theorem outcome_send (r : Request) :
    outcome (send r) s = (.ok (nextAnswer s.script).1,
      { s with trace := s.trace ++ [.request r], script := (nextAnswer s.script).2 }) := rfl

theorem outcome_note (r : Report) (channel message : String) :
    outcome (note r channel message) s = (.ok (),
      { s with trace := s.trace ++ if r.verbose then [.log channel message] else [] }) := by
  unfold note
  split
  · rfl
  · rw [List.append_nil]
    rfl

omit s in
/-- A note adds its record to the trace, or nothing, and does nothing else. -/
theorem note_grows (r : Report) (channel message : String) :
    ∃ log : List Act, (∀ a ∈ log, a = .log channel message) ∧
      ∀ s, outcome (note r channel message) s = (.ok (), { s with trace := s.trace ++ log }) := by
  refine ⟨if r.verbose then [.log channel message] else [], ?_, fun s =>
    outcome_note s r channel message⟩
  split
  · exact fun a ha => List.mem_singleton.1 ha
  · exact List.forall_mem_nil _

/-- An act after a step is done however the step ends. -/
theorem outcome_ensuring_act (step : RunM α) (a : Act) :
    outcome (ensuring step (act a)) s = ((outcome step s).1,
      { (outcome step s).2 with trace := (outcome step s).2.trace ++ [a] }) := rfl

theorem outcome_tryCatch (step : RunM α) (handle : Failure → RunM α) :
    outcome (tryCatch step handle) s = match outcome step s with
      | (.ok a, s') => (.ok a, s')
      | (.error f, s') => outcome (handle f) s' := by
  have ends : step.run.run s = outcome step s := rfl
  rw [outcome, ExceptT.run_tryCatch, StateT.run_bind, ends]
  rcases outcome step s with ⟨_ | _, s'⟩ <;> rfl

end

/-! ## How steps end -/

/-- Taken in a run, a step ends with a result, adds acts to the trace, and leaves another run. -/
structure Ends {α : Type} (step : RunM α) (s : Run) (result : Except Failure α) (acts : List Act)
    (s' : Run) : Prop where
  ends : outcome step s = (result, s')
  grows : s'.trace = s.trace ++ acts

namespace Ends

variable {α β : Type} {s s' s'' : Run} {acts more : List Act}

theorem of_still {step : RunM α} {result : Except Failure α} (ends : outcome step s = (result, s'))
    (same : s'.trace = s.trace) : Ends step s result [] s' :=
  ⟨ends, same.trans (List.append_nil _).symm⟩

theorem unique {step : RunM α} {result result' : Except Failure α}
    (h : Ends step s result acts s') (h' : Ends step s result' more s'') :
    result = result' ∧ acts = more ∧ s' = s'' := by
  cases h.ends.symm.trans h'.ends
  exact ⟨rfl, List.append_cancel_left (h.grows.symm.trans h'.grows), rfl⟩

theorem ofExcept (x : Except Failure α) (s : Run) : Ends (RunM.ofExcept x) s x [] s :=
  .of_still (outcome_ofExcept s x) rfl

protected theorem throw (f : Failure) (s : Run) : Ends (throw f : RunM α) s (.error f) [] s :=
  .of_still (outcome_throw s f) rfl

protected theorem bind {step : RunM α} {next : α → RunM β} {a : α} {result : Except Failure β}
    (first : Ends step s (.ok a) acts s') (rest : Ends (next a) s' result more s'') :
    Ends (step >>= next) s result (acts ++ more) s'' where
  ends := (outcome_bind_ok first.ends next).trans rest.ends
  grows := by rw [rest.grows, first.grows, List.append_assoc]

theorem bind_error {step : RunM α} {f : Failure} (first : Ends step s (.error f) acts s')
    (next : α → RunM β) : Ends (step >>= next) s (.error f) acts s' :=
  ⟨outcome_bind_error first.ends next, first.grows⟩

end Ends

/-- Taken in a run, a step ends with a result, adds acts to the trace, and changes nothing else. -/
def Adds {α : Type} (step : RunM α) (s : Run) (result : Except Failure α) (acts : List Act) : Prop :=
  outcome step s = (result, { s with trace := s.trace ++ acts })

namespace Adds

variable {α β : Type} {s : Run} {acts more : List Act}

theorem ends {step : RunM α} {result : Except Failure α} (h : Adds step s result acts) :
    Ends step s result acts { s with trace := s.trace ++ acts } := ⟨h, rfl⟩

theorem of_still {step : RunM α} {result : Except Failure α} (h : outcome step s = (result, s)) :
    Adds step s result [] := by
  rw [Adds, List.append_nil, h]

theorem ofExcept (x : Except Failure α) (s : Run) : Adds (RunM.ofExcept x) s x [] :=
  of_still (outcome_ofExcept s x)

protected theorem bind {step : RunM α} {next : α → RunM β} {a : α} {result : Except Failure β}
    (first : Adds step s (.ok a) acts)
    (rest : Adds (next a) { s with trace := s.trace ++ acts } result more) :
    Adds (step >>= next) s result (acts ++ more) := by
  rw [Adds, outcome_bind_ok first, rest, List.append_assoc]

theorem bind_error {step : RunM α} {f : Failure} (first : Adds step s (.error f) acts)
    (next : α → RunM β) : Adds (step >>= next) s (.error f) acts :=
  outcome_bind_error first next

theorem ofExcept_bind {x : Except Failure α} {next : α → RunM β} {a : α}
    {result : Except Failure β} (h : x = .ok a) (rest : Adds (next a) s result acts) :
    Adds (RunM.ofExcept x >>= next) s result acts := by
  subst h
  exact rest

theorem ofExcept_bind_error {x : Except Failure α} {next : α → RunM β} {f : Failure}
    (h : x = .error f) : Adds (RunM.ofExcept x >>= next) s (.error f) [] := by
  subst h
  exact (ofExcept _ s).bind_error next

end Adds

/-! ## What steps can do -/

/-- A step adds acts of some kinds only, and fails in some ways only. If it sends no requests, it
leaves the answers to them to the steps after it. -/
structure Confined {α : Type} (A : Act → Prop) (F : Failure → Prop) (step : RunM α) : Prop where
  acts : ∀ s, ∃ acts, (outcome step s).2.trace = s.trace ++ acts ∧ ∀ a ∈ acts, A a
  failures : ∀ s f s', outcome step s = (.error f, s') → F f
  script : (∀ a, A a → a.request? = none) → ∀ s, (outcome step s).2.script = s.script

namespace Confined

variable {α β : Type} {A A' : Act → Prop} {F F' : Failure → Prop}

/-- A step that changes neither trace nor script. -/
theorem of_still {step : RunM α} (trace : ∀ s, (outcome step s).2.trace = s.trace)
    (script : ∀ s, (outcome step s).2.script = s.script)
    (failures : ∀ s f s', outcome step s = (.error f, s') → F f) : Confined A F step where
  acts s := ⟨[], (trace s).trans (List.append_nil _).symm, List.forall_mem_nil _⟩
  failures := failures
  script _ := script

theorem mono {step : RunM α} (h : Confined A F step) (acts : ∀ a, A a → A' a)
    (failures : ∀ f, F f → F' f) : Confined A' F' step where
  acts s := by
    obtain ⟨added, grows, kinds⟩ := h.acts s
    exact ⟨added, grows, fun a ha => acts a (kinds a ha)⟩
  failures s f s' fails := failures f (h.failures s f s' fails)
  script silent := h.script fun a ha => silent a (acts a ha)

protected theorem pure (a : α) : Confined A F (pure a) :=
  .of_still (fun _ => rfl) (fun _ => rfl) fun _ _ _ h => by cases h

protected theorem throw {f : Failure} (h : F f) : Confined A F (throw f : RunM α) := by
  refine .of_still (fun _ => rfl) (fun _ => rfl) fun s f' s' fails => ?_
  cases fails
  exact h

protected theorem bind {step : RunM α} {next : α → RunM β} (first : Confined A F step)
    (rest : ∀ a, Confined A F (next a)) : Confined A F (step >>= next) where
  acts s := by
    obtain ⟨acts, grows, kinds⟩ := first.acts s
    rcases ends : outcome step s with ⟨f | a, between⟩
    · rw [outcome_bind_error ends]
      rw [ends] at grows
      exact ⟨acts, grows, kinds⟩
    · rw [outcome_bind_ok ends]
      rw [ends] at grows
      obtain ⟨more, grows', kinds'⟩ := (rest a).acts between
      refine ⟨acts ++ more, ?_, ?_⟩
      · rw [grows', grows, List.append_assoc]
      · exact List.forall_mem_append.2 ⟨kinds, kinds'⟩
  failures s f s' fails := by
    rcases ends : outcome step s with ⟨f' | a, between⟩
    · rw [outcome_bind_error ends] at fails
      cases fails
      exact first.failures s f _ ends
    · rw [outcome_bind_ok ends] at fails
      exact (rest a).failures between f s' fails
  script silent s := by
    have kept := first.script silent s
    rcases ends : outcome step s with ⟨f | a, between⟩
    · rw [outcome_bind_error ends]
      rw [ends] at kept
      exact kept
    · rw [outcome_bind_ok ends]
      rw [ends] at kept
      exact ((rest a).script silent between).trans kept

theorem act {a : Act} (h : A a) : Confined A F (RunM.act a) where
  acts s := ⟨[a], rfl, fun _ ha => List.mem_singleton.1 ha ▸ h⟩
  failures _ _ _ h := by cases h
  script _ _ := rfl

theorem present {shown : List Shown} (h : ∀ m ∈ shown, A (.showing m)) :
    Confined A F (RunM.present shown) where
  acts s := by
    refine ⟨shown.map .showing, rfl, fun a ha => ?_⟩
    obtain ⟨m, hm, rfl⟩ := List.mem_map.1 ha
    exact h m hm
  failures _ _ _ h := by cases h
  script _ _ := rfl

theorem note {r : Report} {channel message : String} (h : A (.log channel message)) :
    Confined A F (RunM.note r channel message) := by
  unfold RunM.note
  split
  · exact .act h
  · exact .pure ()

theorem get : Confined A F (get : RunM Run) :=
  .of_still (fun _ => rfl) (fun _ => rfl) fun _ _ _ h => by cases h

theorem ofExcept {x : Except Failure α} (h : ∀ f, x = .error f → F f) :
    Confined A F (RunM.ofExcept x) := by
  refine .of_still (fun _ => rfl) (fun _ => rfl) fun s f s' fails => ?_
  cases fails
  exact h f rfl

/-- What comes after a computation that succeeded. -/
theorem ofExcept_bind {x : Except Failure α} {next : α → RunM β} (fails : ∀ f, x = .error f → F f)
    (rest : ∀ a, x = .ok a → Confined A F (next a)) :
    Confined A F (RunM.ofExcept x >>= next) := by
  cases x with
  | error f => exact .throw (fails f rfl)
  | ok a => exact rest a rfl

theorem ofEval {x : Eval α} (h : ∀ w f w', outcome x w = (.error f, w') → F f) :
    Confined A F (RunM.ofEval x) := by
  refine .of_still (fun _ => rfl) (fun _ => rfl) fun s f s' fails => ?_
  rw [outcome_ofEval] at fails
  exact h s.world f (outcome x s.world).2 (Prod.ext (Prod.mk.inj fails).1 rfl)

theorem send {r : Request} (h : A (.request r)) : Confined A F (RunM.send r) where
  acts s := ⟨[.request r], rfl, fun _ ha => List.mem_singleton.1 ha ▸ h⟩
  failures _ _ _ h := by cases h
  script silent := nomatch silent _ h

theorem exists_ends {step : RunM α} (h : Confined A F step) {s s' : Run}
    {result : Except Failure α} (ends : outcome step s = (result, s')) :
    ∃ acts, Ends step s result acts s' ∧ ∀ a ∈ acts, A a := by
  obtain ⟨acts, grows, kinds⟩ := h.acts s
  rw [ends] at grows
  exact ⟨acts, ⟨ends, grows⟩, kinds⟩

theorem script_of_ends {step : RunM α} (h : Confined A F step) {s s' : Run}
    {result : Except Failure α} {acts : List Act} (e : Ends step s result acts s')
    (silent : ∀ a, A a → a.request? = none) : s'.script = s.script := by
  have kept := h.script silent s
  rw [e.ends] at kept
  exact kept

/-- A loop does what its rounds do. -/
theorem forIn {γ : Type} {items : List γ} {round : γ → PUnit → RunM (ForInStep PUnit)}
    (h : ∀ c ∈ items, Confined A F (round c ⟨⟩)) : Confined A F (forIn items ⟨⟩ round) := by
  induction items with
  | nil => exact .pure _
  | cons c rest ih =>
    rw [List.forIn_cons]
    refine (h c List.mem_cons_self).bind fun next => ?_
    cases next with
    | done => exact .pure _
    | yield => exact ih fun c hc => h c (List.mem_cons_of_mem _ hc)

end Confined

end RunM

end RouteSchema
