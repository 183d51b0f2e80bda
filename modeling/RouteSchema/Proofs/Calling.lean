import RouteSchema.Client
import RouteSchema.Platform.Usual
import RouteSchema.Proofs.Wording

/-!
# Calls

A call of an endpoint function asks the application for two things: whether it accepts a parameter,
and to perform a call. Here the application is watched while it answers; it may keep a state of its
own, so that its answers depend on what it was asked before.

* `Answers` lists the ways in which a call is answered, each with everything that was asked, and
  `BreaksOff` those in which a value without a text ends it.
* `interpolate_of_supplied`: a template whose names all have values is filled, or one of the values
  has no text.
* `call_answers`: a call ends in one of these ways, and is answered if all texts that it asks for
  exist. It asks for a dispatch exactly if every required name has a value with a text and every
  parameter is accepted, and never ends with an unfilled placeholder.
-/

namespace RouteSchema

/-- What an application is asked for. -/
inductive Asked
  /-- Whether it accepts a parameter. -/
  | accepts (key value : Value)
  /-- To perform a call. -/
  | dispatch (call : Call)

namespace Asked

/-- The question about an entry of the parameters. -/
def about (entry : Value × Value) : Asked := .accepts entry.1 entry.2

/-- Whether a call is to be performed. -/
def isDispatch : Asked → Bool
  | .dispatch _ => true
  | .accepts _ _ => false

theorem countP_about (entries : Dict) : (entries.map about).countP isDispatch = 0 := by
  rw [List.countP_eq_zero]
  rintro _ h
  obtain ⟨e, -, rfl⟩ := List.mem_map.1 h
  exact Bool.false_ne_true

end Asked

variable {σ ρ : Type}

/-- A capability that notes down what it is asked for. -/
def Capability.noting (c : Capability (StateM σ) ρ) : Capability (StateM (σ × List Asked)) ρ where
  dispatch call := fun (s, asked) =>
    let (answer, s) := (c.dispatch call).run s
    (answer, s, asked ++ [.dispatch call])
  accepts key value := fun (s, asked) =>
    let (answer, s) := (c.accepts key value).run s
    (answer, s, asked ++ [.accepts key value])

/-- What a call hands to the application once its address is known. -/
def EndpointFunction.request {m : Type → Type} (f : EndpointFunction m ρ) (params options : Dict)
    (address : String) : Call :=
  ⟨f.endpoint.id, f.endpoint.dispatchAttributes, address, params, options⟩

/-- The same function with a capability that notes down what it is asked for. -/
def EndpointFunction.noting (f : EndpointFunction (StateM σ) ρ) :
    EndpointFunction (StateM (σ × List Asked)) ρ :=
  ⟨f.endpoint, f.capability.noting, f.pattern⟩

/-- A name has a value among the parameters, and it is not the null value. -/
def Supplied (params : Dict) (name : Option String) : Prop :=
  ∃ value, Assoc.get? params (nameValue name) = some value ∧ value ≠ .null

/-- Asked about entries one after the other, the application accepts each of them. -/
inductive Accepted (accepts : Value → Value → StateM σ Bool) : σ → Dict → σ → Prop
  | nil (s : σ) : Accepted accepts s [] s
  | cons {s s₁ s₂ : σ} {key value : Value} {rest : Dict}
      (first : (accepts key value).run s = (true, s₁)) (others : Accepted accepts s₁ rest s₂) :
      Accepted accepts s ((key, value) :: rest) s₂

section

variable [Platform]

/-- A call under watch: its answer, the state it leaves the application in, and what it asked. -/
def EndpointFunction.watch (f : EndpointFunction (StateM σ) ρ) (params options : Dict) (s : σ) :
    Except Failure ρ × σ × List Asked :=
  (f.noting.call params options).run (s, [])

/-- What is put in the place of a name has a text. -/
def Worded (params : Dict) (name : Option String) : Prop := (Template.value params name).HasText

/-- A failure is that of the first among some names whose value has no text. -/
def FirstWordless (params : Dict) (names : List (Option String)) (failure : Failure) : Prop :=
  ∃ before name after, names = before ++ name :: after ∧ (∀ n ∈ before, Worded params n) ∧
    (Template.value params name).asText = .error failure

/-- The ways in which a call from a state is answered: the answer, the state after it, what it
asked. -/
inductive Answers (f : EndpointFunction (StateM σ) ρ) (params options : Dict) (s : σ) :
    Except Failure ρ → σ → List Asked → Prop
  /-- A required name has no value, and those before it have one. Nothing is asked. -/
  | missing {before after : List (Option String)} {name : Option String}
      (names : f.pattern.names f.endpoint.path = before ++ name :: after)
      (supplied : ∀ n ∈ before, Supplied params n) (absent : ¬Supplied params name) :
      Answers f params options s (.error (.rejected f.endpoint.id (nameValue name) .required)) s []
  /-- A parameter is not accepted, and those before it are. Nothing is asked after it. -/
  | refused {before after : Dict} {key value : Value} {s₁ s₂ : σ}
      (supplied : ∀ n ∈ f.pattern.names f.endpoint.path, Supplied params n)
      (entries : params = before ++ (key, value) :: after)
      (accepted : Accepted f.capability.accepts s before s₁)
      (refusal : (f.capability.accepts key value).run s₁ = (false, s₂)) (worded : key.HasText) :
      Answers f params options s (.error (.rejected f.endpoint.id key .refused)) s₂
        ((before ++ [(key, value)]).map .about)
  /-- Every parameter is accepted. One dispatch is asked for, and its answer is the answer. -/
  | dispatched {address : String} {answer : ρ} {s₁ s₂ : σ}
      (supplied : ∀ n ∈ f.pattern.names f.endpoint.path, Supplied params n)
      (worded : ∀ n ∈ f.pattern.names f.endpoint.path, Worded params n)
      (accepted : Accepted f.capability.accepts s params s₁)
      (filled : f.pattern.interpolate f.endpoint.path params = .ok address)
      (performed :
        (f.capability.dispatch (f.request params options address)).run s₁ = (answer, s₂)) :
      Answers f params options s (.ok answer) s₂
        (params.map .about ++ [.dispatch (f.request params options address)])

/-- The ways in which a call from a state breaks off, because a text that it asks for does not
exist: the failure, the state after it, what it asked. -/
inductive BreaksOff (f : EndpointFunction (StateM σ) ρ) (params : Dict) (s : σ) :
    Failure → σ → List Asked → Prop
  /-- The key of a parameter that is not accepted has no text. -/
  | key {before after : Dict} {key value : Value} {failure : Failure} {s₁ s₂ : σ}
      (supplied : ∀ n ∈ f.pattern.names f.endpoint.path, Supplied params n)
      (entries : params = before ++ (key, value) :: after)
      (accepted : Accepted f.capability.accepts s before s₁)
      (refusal : (f.capability.accepts key value).run s₁ = (false, s₂))
      (wordless : key.asText = .error failure) :
      BreaksOff f params s failure s₂ ((before ++ [(key, value)]).map .about)
  /-- Every parameter is accepted, and the value of a required name has no text. -/
  | value {failure : Failure} {s₁ : σ}
      (supplied : ∀ n ∈ f.pattern.names f.endpoint.path, Supplied params n)
      (accepted : Accepted f.capability.accepts s params s₁)
      (wordless : FirstWordless params (f.pattern.names f.endpoint.path) failure) :
      BreaksOff f params s failure s₁ (params.map .about)

end

/-! ## Required names -/

theorem isSome_given?_iff {params : Dict} {name : Option String} :
    (Template.given? params name).isSome = true ↔ Supplied params name := by
  unfold Template.given? Supplied
  cases h : Assoc.get? params (nameValue name) with
  | none => simp
  | some value => cases value <;> simp

theorem isNone_given?_iff {params : Dict} {name : Option String} :
    (Template.given? params name).isNone = true ↔ ¬Supplied params name := by
  rw [← isSome_given?_iff]
  cases Template.given? params name <;> simp

section

variable [Platform]

theorem forall_worded_iff {params : Dict} {names : List (Option String)} :
    (∀ n ∈ names, Worded params n) ↔
      ∃ texts, names.mapM (fun n => (Template.value params n).asText) = .ok texts := by
  rw [Outcome.exists_mapM_eq_ok]
  refine forall₂_congr fun n _ => ⟨fun has => ⟨_, has.asText⟩, ?_⟩
  rintro ⟨text, shown⟩
  exact (Value.asText_eq_ok.1 shown).1

theorem firstWordless_iff {params : Dict} {names : List (Option String)} {failure : Failure} :
    FirstWordless params names failure ↔
      names.mapM (fun n => (Template.value params n).asText) = .error failure := by
  rw [Outcome.mapM_eq_error]
  refine exists_congr fun before => exists_congr fun name => exists_congr fun after =>
    and_congr_right fun _ => and_congr_left fun _ => ?_
  rw [forall_worded_iff, Outcome.exists_mapM_eq_ok]

theorem FirstWordless.not_worded {params : Dict} {names : List (Option String)} {failure : Failure}
    (h : FirstWordless params names failure) : ¬∀ n ∈ names, Worded params n := by
  rw [forall_worded_iff, firstWordless_iff.1 h]
  rintro ⟨texts, ⟨⟩⟩

/-- A template whose names all have values is filled, or one of the values has no text. -/
theorem interpolate_of_supplied {p : Pattern} {text : String} {params : Dict}
    (h : ∀ n ∈ p.names text, Supplied params n) :
    ((∀ n ∈ p.names text, Worded params n) ∧
        ∃ address, p.interpolate text params = .ok address) ∨
      ∃ failure, FirstWordless params (p.names text) failure ∧
        p.interpolate text params = .error failure := by
  have complete : (Template.read p text).missing? params = none := by
    refine List.find?_eq_none.2 fun name hn absent => ?_
    exact isNone_given?_iff.1 absent (h name hn)
  have filled : p.interpolate text params = ((p.names text).mapM fun n =>
      (Template.value params n).asText).map fun _ =>
        (Template.read p text).substitute fun n => (Template.value params n).display := by
    rw [Pattern.interpolate, Template.fill, complete]
    dsimp only
    rw [Outcome.forM_discard, ← Pattern.names]
    cases (p.names text).mapM fun n => (Template.value params n).asText <;> rfl
  rw [forall_worded_iff]
  simp only [firstWordless_iff, filled]
  cases (p.names text).mapM fun n => (Template.value params n).asText with
  | ok texts => exact .inl ⟨⟨texts, rfl⟩, _, rfl⟩
  | error failure => exact .inr ⟨failure, rfl, rfl⟩

/-- A template is filled where all its names have values with texts. -/
theorem exists_interpolate_of_worded {p : Pattern} {text : String} {params : Dict}
    (h : ∀ n ∈ p.names text, Supplied params n) (worded : ∀ n ∈ p.names text, Worded params n) :
    ∃ address, p.interpolate text params = .ok address := by
  rcases interpolate_of_supplied h with ⟨-, filled⟩ | ⟨failure, wordless, -⟩
  · exact filled
  · exact absurd worded wordless.not_worded

end

/-! ## The validator -/

/-- One question more, and the questions after it if the answer is yes. -/
theorem firstRefused?_noting_cons (c : Capability (StateM σ) ρ) (key value : Value) (rest : Dict)
    (s : σ) (asked : List Asked) :
    (EndpointFunction.firstRefused? c.noting.accepts ((key, value) :: rest)).run (s, asked) =
      match (c.accepts key value).run s with
      | (true, s₁) => (EndpointFunction.firstRefused? c.noting.accepts rest).run
          (s₁, asked ++ [.accepts key value])
      | (false, s₁) => (some key, s₁, asked ++ [.accepts key value]) := by
  rw [EndpointFunction.firstRefused?, StateT.run_bind]
  have noted : (c.noting.accepts key value).run (s, asked) =
      (((c.accepts key value).run s).1, ((c.accepts key value).run s).2,
        asked ++ [.accepts key value]) := rfl
  rw [noted]
  rcases (c.accepts key value).run s with ⟨_ | _, s₁⟩ <;> rfl

/-- Asking about entries in order either accepts them all or stops at the first refused one. -/
theorem firstRefused?_noting (c : Capability (StateM σ) ρ) (params : Dict) (s : σ)
    (asked : List Asked) :
    (∃ s₁, Accepted c.accepts s params s₁ ∧
      (EndpointFunction.firstRefused? c.noting.accepts params).run (s, asked) =
        (none, s₁, asked ++ params.map .about)) ∨
    (∃ before key value after s₁ s₂, params = before ++ (key, value) :: after ∧
      Accepted c.accepts s before s₁ ∧ (c.accepts key value).run s₁ = (false, s₂) ∧
      (EndpointFunction.firstRefused? c.noting.accepts params).run (s, asked) =
        (some key, s₂, asked ++ (before ++ [(key, value)]).map .about)) := by
  induction params generalizing s asked with
  | nil =>
    refine .inl ⟨s, .nil s, ?_⟩
    rw [List.map_nil, List.append_nil]
    rfl
  | cons e rest ih =>
    obtain ⟨key, value⟩ := e
    have step := firstRefused?_noting_cons c key value rest s asked
    rcases first : (c.accepts key value).run s with ⟨_ | _, s₁⟩
    · rw [first] at step
      exact .inr ⟨[], key, value, rest, s, s₁, rfl, .nil s, first, step⟩
    · rw [first] at step
      rcases ih s₁ (asked ++ [.accepts key value]) with
        ⟨s₂, others, run⟩ | ⟨before, k, v, after, s₂, s₃, entries, others, refusal, run⟩
      · refine .inl ⟨s₂, .cons first others, (step.trans run).trans ?_⟩
        rw [List.append_assoc]
        rfl
      · refine .inr ⟨(key, value) :: before, k, v, after, s₂, s₃, ?_, .cons first others, refusal,
          (step.trans run).trans ?_⟩
        · rw [entries, List.cons_append]
        · rw [List.append_assoc]
          rfl

/-- The state in which an application has accepted entries is determined, and so is whether it
accepts the next one. -/
theorem Accepted.not_refused {accepts : Value → Value → StateM σ Bool} {s s₁ s₂ s₃ : σ}
    {before after : Dict} {key value : Value} (h : Accepted accepts s before s₁)
    (refusal : (accepts key value).run s₁ = (false, s₂)) :
    ¬Accepted accepts s (before ++ (key, value) :: after) s₃ := by
  induction h with
  | nil s =>
    intro all
    cases all with
    | cons first others =>
      rw [first] at refusal
      cases refusal
  | cons first _ ih =>
    intro all
    cases all with
    | cons first' others =>
      rw [first] at first'
      cases first'
      exact ih refusal others

/-! ## The call -/

section

variable [Platform]

theorem rejection?_of_missing {f : EndpointFunction (StateM σ) ρ} {params : Dict}
    {name : Option String} (s : σ × List Asked)
    (h : f.noting.required.find? (fun name => (Template.given? params name).isNone) = some name) :
    (f.noting.rejection? params).run s =
      (some (.rejected f.endpoint.id (nameValue name) .required), s) := by
  rw [EndpointFunction.rejection?, h]
  rfl

theorem rejection?_of_supplied {f : EndpointFunction (StateM σ) ρ} {params : Dict}
    {refused : Option Value} {s s' : σ × List Asked}
    (h : f.noting.required.find? (fun name => (Template.given? params name).isNone) = none)
    (scan : (EndpointFunction.firstRefused? f.noting.capability.accepts params).run s =
      (refused, s')) :
    (f.noting.rejection? params).run s =
      (refused.map (EndpointFunction.refusal f.endpoint.id), s') := by
  rw [EndpointFunction.rejection?, h]
  simp only [StateT.run_bind, scan]
  cases refused <;> rfl

theorem call_of_rejected {f : EndpointFunction (StateM σ) ρ} {params : Dict} {failure : Failure}
    {s s' : σ × List Asked} (options : Dict)
    (h : (f.noting.rejection? params).run s = (some failure, s')) :
    (f.noting.call params options).run s = (.error failure, s') := by
  rw [EndpointFunction.call, StateT.run_bind, h]
  rfl

theorem call_of_unfilled {f : EndpointFunction (StateM σ) ρ} {params : Dict} {failure : Failure}
    {s s' : σ × List Asked} (options : Dict)
    (h : (f.noting.rejection? params).run s = (none, s'))
    (unfilled : f.pattern.interpolate f.endpoint.path params = .error failure) :
    (f.noting.call params options).run s = (.error failure, s') := by
  have unfilled' : f.noting.pattern.interpolate f.noting.endpoint.path params = .error failure :=
    unfilled
  rw [EndpointFunction.call, StateT.run_bind, h]
  simp only [unfilled']
  rfl

theorem call_of_filled {f : EndpointFunction (StateM σ) ρ} {params : Dict} {address : String}
    {answer : ρ} {s s₁ s₂ : σ} {asked : List Asked} (options : Dict)
    (h : (f.noting.rejection? params).run (s, []) = (none, s₁, asked))
    (filled : f.pattern.interpolate f.endpoint.path params = .ok address)
    (performed : (f.capability.dispatch (f.request params options address)).run s₁ = (answer, s₂)) :
    (f.noting.call params options).run (s, []) =
      (.ok answer, s₂, asked ++ [.dispatch (f.request params options address)]) := by
  have filled' : f.noting.pattern.interpolate f.noting.endpoint.path params = .ok address := filled
  have noted : (f.noting.capability.dispatch (f.noting.request params options address)).run
      (s₁, asked) = (answer, s₂, asked ++ [.dispatch (f.request params options address)]) := by
    let note (r : ρ × σ) : ρ × σ × List Asked :=
      (r.1, r.2, asked ++ [.dispatch (f.request params options address)])
    exact congrArg note performed
  rw [EndpointFunction.call, StateT.run_bind, h]
  simp only [filled']
  exact congrArg (fun r : ρ × σ × List Asked => (Except.ok r.1, r.2)) noted

/-- A call is answered, or it breaks off. -/
theorem watch_answers (f : EndpointFunction (StateM σ) ρ) (params options : Dict) (s : σ) :
    ∃ answer s' asked, f.watch params options s = (answer, s', asked) ∧
      (Answers f params options s answer s' asked ∨
        ∃ failure, answer = .error failure ∧ BreaksOff f params s failure s' asked) := by
  cases scan : (f.pattern.names f.endpoint.path).find? fun name =>
      (Template.given? params name).isNone with
  | some name =>
    obtain ⟨absent, before, after, names, supplied⟩ := List.find?_eq_some_iff_append.1 scan
    refine ⟨_, _, _, call_of_rejected options (rejection?_of_missing (s, []) scan), .inl ?_⟩
    refine .missing names (fun n hn => isSome_given?_iff.1 ?_) (isNone_given?_iff.1 absent)
    simpa using supplied n hn
  | none =>
    have supplied : ∀ n ∈ f.pattern.names f.endpoint.path, Supplied params n := by
      intro n hn
      refine Classical.byContradiction fun absent => ?_
      exact List.find?_eq_none.1 scan n hn (isNone_given?_iff.2 absent)
    rcases firstRefused?_noting f.capability params s [] with
      ⟨s₁, accepted, asked⟩ | ⟨before, key, value, after, s₁, s₂, entries, accepted, refusal, asked⟩
    · have none : (f.noting.rejection? params).run (s, []) = (none, s₁, [] ++ params.map .about) :=
        rejection?_of_supplied scan asked
      rcases interpolate_of_supplied supplied with
        ⟨worded, address, filled⟩ | ⟨failure, wordless, unfilled⟩
      · exact ⟨_, _, _, call_of_filled options none filled rfl,
          .inl (.dispatched supplied worded accepted filled rfl)⟩
      · exact ⟨_, _, _, call_of_unfilled options none unfilled,
          .inr ⟨failure, rfl, .value supplied accepted wordless⟩⟩
    · have run := call_of_rejected options (rejection?_of_supplied scan asked)
      cases text : key.asText with
      | ok shown =>
        rw [EndpointFunction.refusal, text] at run
        exact ⟨_, _, _, run, .inl (.refused supplied entries accepted refusal
          (Value.asText_eq_ok.1 text).1)⟩
      | error failure =>
        rw [EndpointFunction.refusal, text] at run
        exact ⟨_, _, _, run, .inr ⟨failure, rfl, .key supplied entries accepted refusal text⟩⟩

/-- A call that breaks off asks for no dispatch, and some text that it asked for does not exist. -/
theorem BreaksOff.not_worded {f : EndpointFunction (StateM σ) ρ} {params : Dict} {s s' : σ}
    {failure : Failure} {asked : List Asked} (h : BreaksOff f params s failure s' asked) :
    asked.countP Asked.isDispatch = 0 ∧ failure.IsWordless ∧
      ((¬∃ s₁, Accepted f.capability.accepts s params s₁) ∧ (∃ e ∈ params, ¬e.1.HasText) ∨
        ¬∀ n ∈ f.pattern.names f.endpoint.path, Worded params n) := by
  cases h with
  | key supplied entries accepted refusal wordless =>
    have absent := (Value.asText_eq_error wordless).1
    refine ⟨Asked.countP_about _, ⟨_, wordless⟩, .inl ⟨?_, ?_⟩⟩
    · rintro ⟨s₁, all⟩
      exact accepted.not_refused refusal (entries ▸ all)
    · rw [entries]
      exact ⟨_, List.mem_append_right _ List.mem_cons_self, absent⟩
  | value supplied accepted wordless =>
    refine ⟨Asked.countP_about _, ?_, .inr wordless.not_worded⟩
    obtain ⟨before, name, after, -, -, fails⟩ := wordless
    exact ⟨_, fails⟩

end

end RouteSchema
