import RouteSchema.Proofs.Tracing

/-!
# Runs with fewer acts

Two steps may do the same but for some acts that only one of them leaves in its trace. From any run,
and whatever the trace so far, they then end in the same way and leave the same behind.

* `Thins`: a step does what another does, with only those of its acts that are kept.
* `Thins.bind`, `Thins.get_bind`, `Thins.ensuring`, `Thins.forIn`: the relation is kept by the ways
  in which steps are put together.

No step reads the trace, which is what keeps the rest of two such runs in step.
-/

namespace RouteSchema

open Stateful

namespace RunM

variable {α β γ δ : Type} {keep : Act → Bool}

/-- Two results agree: values that stand in a relation, or the same failure. -/
inductive Agree (Q : α → β → Prop) : Except Failure α → Except Failure β → Prop
  | ok {a : α} {b : β} (h : Q a b) : Agree Q (.ok a) (.ok b)
  | error (f : Failure) : Agree Q (.error f) (.error f)

theorem Agree.eq {x y : Except Failure α} (h : Agree Eq x y) : x = y := by
  cases h with
  | ok h => rw [h]
  | error f => rfl

theorem Agree.refl (x : Except Failure α) : Agree Eq x x := by
  cases x with
  | ok a => exact .ok rfl
  | error f => exact .error f

/-- The second step does what the first does, with only those of its acts that are kept. -/
def Thins (keep : Act → Bool) (Q : α → β → Prop) (step : RunM α) (step' : RunM β) : Prop :=
  ∀ (s : Run) (t : List Act), ∃ result result' acts s₁, Ends step s result acts s₁ ∧
    outcome step' { s with trace := t } =
      (result', { s₁ with trace := t ++ acts.filter keep }) ∧ Agree Q result result'

namespace Thins

variable {Q : α → β → Prop} {Q' : γ → δ → Prop}

/-! ## Elementary steps -/

/-- Steps that add acts and change nothing else, each to any trace. -/
theorem of_adds {step : RunM α} {step' : RunM β} {result : Except Failure α}
    {result' : Except Failure β} {acts acts' : List Act}
    (adds : ∀ s, Adds step s result acts) (adds' : ∀ s, Adds step' s result' acts')
    (thin : acts.filter keep = acts') (agree : Agree Q result result') :
    Thins keep Q step step' := by
  intro s t
  refine ⟨result, result', acts, _, (adds s).ends, ?_, agree⟩
  rw [thin]
  exact adds' { s with trace := t }

protected theorem pure {a : α} {b : β} (h : Q a b) : Thins keep Q (pure a) (pure b) :=
  .of_adds (fun _ => .of_still rfl) (fun _ => .of_still rfl) rfl (.ok h)

protected theorem throw (f : Failure) : Thins keep Q (throw f) (throw f) :=
  .of_adds (fun s => .of_still (outcome_throw s f)) (fun s => .of_still (outcome_throw s f)) rfl
    (.error f)

theorem ofExcept {x : Except Failure α} {y : Except Failure β} (h : Agree Q x y) :
    Thins keep Q (RunM.ofExcept x) (RunM.ofExcept y) :=
  .of_adds (Adds.ofExcept x) (Adds.ofExcept y) rfl h

theorem act {a : Act} (h : keep a = true) : Thins keep Eq (RunM.act a) (RunM.act a) := by
  have only : [a].filter keep = [a] := by rw [List.filter_cons_of_pos h, List.filter_nil]
  exact .of_adds (fun s => outcome_act s a) (fun s => outcome_act s a) only (.ok rfl)

theorem present {shown shown' : List Shown}
    (h : (shown.map Act.showing).filter keep = shown'.map Act.showing) :
    Thins keep Eq (RunM.present shown) (RunM.present shown') :=
  .of_adds (fun s => outcome_present s shown) (fun s => outcome_present s shown') h (.ok rfl)

theorem note {r r' : Report} {channel message : String}
    (h : (if r.verbose then [Act.log channel message] else []).filter keep =
      if r'.verbose then [.log channel message] else []) :
    Thins keep Eq (RunM.note r channel message) (RunM.note r' channel message) :=
  .of_adds (fun s => outcome_note s r channel message)
    (fun s => outcome_note s r' channel message) h (.ok rfl)

theorem ofEval (x : Eval α) : Thins keep Eq (RunM.ofEval x) (RunM.ofEval x) := by
  intro s t
  refine ⟨_, _, [], _, .of_still (outcome_ofEval s x) rfl, ?_, .refl _⟩
  rw [outcome_ofEval, List.filter_nil, List.append_nil]

theorem send {r : Request} (h : keep (.request r) = true) :
    Thins keep Eq (RunM.send r) (RunM.send r) := by
  intro s t
  refine ⟨_, _, [.request r], _, ⟨outcome_send s r, rfl⟩, ?_, .refl _⟩
  rw [outcome_send, List.filter_cons_of_pos h, List.filter_nil]

/-! ## Composite steps -/

protected theorem bind {step : RunM α} {step' : RunM β} {next : α → RunM γ} {next' : β → RunM δ}
    (first : Thins keep Q step step') (rest : ∀ a b, Q a b → Thins keep Q' (next a) (next' b)) :
    Thins keep Q' (step >>= next) (step' >>= next') := by
  intro s t
  obtain ⟨result, result', acts, s₁, ends, thin, agree⟩ := first s t
  cases agree with
  | error f =>
    exact ⟨.error f, .error f, acts, s₁, ends.bind_error next, outcome_bind_error thin next',
      .error f⟩
  | @ok a b h =>
    obtain ⟨result, result', more, s₂, ends', thin', agree⟩ := rest a b h s₁ (t ++ acts.filter keep)
    refine ⟨result, result', acts ++ more, s₂, ends.bind ends', ?_, agree⟩
    rw [outcome_bind_ok thin, thin', List.filter_append, List.append_assoc]

/-- Steps that go on in the same way from the same value. -/
theorem bind_same {step step' : RunM α} {next : α → RunM γ} {next' : α → RunM δ}
    (first : Thins keep Eq step step') (rest : ∀ a, Thins keep Q' (next a) (next' a)) :
    Thins keep Q' (step >>= next) (step' >>= next') :=
  first.bind fun a _ h => h ▸ rest a

/-- Looking at a run, without regard to its trace. -/
theorem get_bind {next : Run → RunM α} {next' : Run → RunM β}
    (blind : ∀ s t, next' { s with trace := t } = next' s)
    (rest : ∀ s, Thins keep Q (next s) (next' s)) :
    Thins keep Q (get >>= next) (get >>= next') := by
  intro s t
  rw [outcome_bind_ok (outcome_get _), blind]
  obtain ⟨result, result', acts, s₁, ends, thin, agree⟩ := rest s s t
  refine ⟨result, result', acts, s₁, ⟨?_, ends.grows⟩, thin, agree⟩
  rw [outcome_bind_ok (outcome_get s), ends.ends]

theorem ensuring {step : RunM α} {step' : RunM β} {a : Act} (first : Thins keep Q step step')
    (h : keep a = true) :
    Thins keep Q (RunM.ensuring step (RunM.act a)) (RunM.ensuring step' (RunM.act a)) := by
  intro s t
  obtain ⟨result, result', acts, s₁, ends, thin, agree⟩ := first s t
  refine ⟨result, result', acts ++ [a], { s₁ with trace := s₁.trace ++ [a] }, ⟨?_, ?_⟩, ?_, agree⟩
  · rw [outcome_ensuring_act, ends.ends]
  · rw [ends.grows, List.append_assoc]
  · rw [outcome_ensuring_act, thin, List.filter_append, List.filter_cons_of_pos h, List.filter_nil,
      List.append_assoc]

/-- A loop does with fewer acts what its rounds do with fewer acts. -/
theorem forIn {items : List γ} {round round' : γ → PUnit → RunM (ForInStep PUnit)}
    (h : ∀ c ∈ items, Thins keep Eq (round c ⟨⟩) (round' c ⟨⟩)) :
    Thins keep Eq (forIn items ⟨⟩ round) (forIn items ⟨⟩ round') := by
  induction items with
  | nil => exact .pure rfl
  | cons c rest ih =>
    rw [List.forIn_cons, List.forIn_cons]
    refine (h c List.mem_cons_self).bind_same fun next => ?_
    cases next with
    | done => exact .pure rfl
    | yield => exact ih fun c hc => h c (List.mem_cons_of_mem _ hc)

end Thins

end RunM

end RouteSchema
