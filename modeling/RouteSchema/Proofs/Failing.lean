import RouteSchema.Cli.Commands
import RouteSchema.Proofs.Tracing
import RouteSchema.Proofs.Wording

/-!
# How preparations fail

Before a command asks for an endpoint it computes settings, loads a tree and compiles it. Each of
these fails with one exit code, or with a failure that has none of its own; and neither sends a
request, opens a connection, or puts anything on the standard output.

* `Coded` says that a failure has at most the given exit code.
* `coded_settings`: settings fail with the general code.
* `Act.Preparing` are the acts of preparations.
* `preparing_compiled`: loading and compiling fail with the code of schemas.
-/

namespace RouteSchema

open Stateful

/-- A failure has the exit code, or none of its own. -/
def Coded (code : Int) (f : Failure) : Prop := ∀ c, f.exitCode? = some c → c = code

/-- A computation in the world fails in some ways only. -/
def FailsOnly {α : Type} (F : Failure → Prop) (x : Eval α) : Prop :=
  ∀ w f w', outcome x w = (.error f, w') → F f

/-- An act that neither sends a request nor opens or closes a connection. -/
def Act.Idle (a : Act) : Prop := a.request? = none ∧ a.isConnection = false

/-- An act of a preparation: a document is fetched, a message shown, or a record written. -/
def Act.Preparing : Act → Prop
  | .fetch _ | .log _ _ | .showing (.err _) | .showing (.styledErr _) => True
  | _ => False

theorem Act.Preparing.idle {a : Act} (h : a.Preparing) : a.Idle := by
  cases a with
  | fetch | log | showing => exact ⟨rfl, rfl⟩
  | _ => exact h.elim

theorem idle_of_preparing {acts : List Act} (h : ∀ a ∈ acts, a.Preparing) : ∀ a ∈ acts, a.Idle :=
  fun a ha => (h a ha).idle

theorem preparing_message (r : Report) (plain markup : String) :
    ∀ m ∈ r.message plain markup, Act.Preparing (.showing m) := by
  unfold Report.message
  split
  · exact List.forall_mem_singleton.2 trivial
  · exact List.forall_mem_singleton.2 trivial

theorem preparing_debug (r : Report) (text : String) :
    ∀ m ∈ r.debug text, Act.Preparing (.showing m) := by
  unfold Report.debug
  split
  · exact preparing_message r _ _
  · exact List.forall_mem_nil _

namespace FailsOnly

variable {α β : Type} {F : Failure → Prop}

protected theorem pure (a : α) : FailsOnly F (pure a) := fun _ _ _ h => by cases h

protected theorem throw {f : Failure} (h : F f) : FailsOnly F (throw f : Eval α) := by
  intro w f' w' fails
  cases fails
  exact h

protected theorem get : FailsOnly F (get : Eval World) := fun _ _ _ h => by cases h

protected theorem bind {x : Eval α} {next : α → Eval β} (first : FailsOnly F x)
    (rest : ∀ a, FailsOnly F (next a)) : FailsOnly F (x >>= next) := by
  intro w f w' fails
  rcases ends : outcome x w with ⟨f' | a, between⟩
  · rw [outcome_bind_error ends] at fails
    cases fails
    exact first w f _ ends
  · rw [outcome_bind_ok ends] at fails
    exact rest a between f w' fails

theorem ofExcept {x : Except Failure α} (h : ∀ f, x = .error f → F f) :
    FailsOnly F (ExceptT.mk (pure x) : Eval α) := by
  intro w f w' fails
  cases fails
  exact h f rfl

end FailsOnly

/-! ## Failures of values and files -/

section

variable {code : Int}

theorem Coded.of_none {f : Failure} (h : f.exitCode? = none) : Coded code f := by
  intro c own
  cases h.symm.trans own

theorem coded_mapError {α ε : Type} {x : Except ε α} {wrap : ε → Failure} {f : Failure}
    (all : ∀ fault, Coded code (wrap fault)) (h : x.mapError wrap = .error f) : Coded code f := by
  obtain ⟨fault, -, rfl⟩ := Outcome.mapError_eq_error.1 h
  exact all fault

theorem coded_pair {i : Nat} {v : Value} {f : Failure} (h : v.pair i = .error f) :
    Coded code f := by
  unfold Value.pair at h
  split at h
  · cases h
    exact .of_none rfl
  · split at h <;> cases h
    exact .of_none rfl
  · cases h
    exact .of_none rfl

theorem coded_pairs {i : Nat} {items : List Value} {f : Failure}
    (h : Value.pairs i items = .error f) : Coded code f := by
  induction items generalizing i with
  | nil => cases h
  | cons v items ih =>
    rcases Outcome.bind_eq_error.1 h with h | ⟨e, -, h⟩
    · exact coded_pair h
    · rcases Outcome.bind_eq_error.1 h with h | ⟨es, -, ⟨⟩⟩
      exact ih h

theorem coded_mapping {v : Value} {f : Failure} (h : v.mapping = .error f) : Coded code f := by
  unfold Value.mapping at h
  split at h
  · cases h
  · split at h
    · exact coded_pairs (Outcome.map_eq_error.1 h)
    · cases h
      exact .of_none rfl

theorem coded_lookup (f : FileName) : FailsOnly (Coded code) <| Eval.entry? f := by
  refine .bind .get fun w => ?_
  split
  · exact .pure _
  · exact .pure _
  · exact .throw (.of_none rfl)

theorem coded_text (f : FileName) : FailsOnly (Coded code) (Eval.text? f) := by
  refine .bind (.bind (coded_lookup f) fun found => ?_) fun found => ?_
  · split
    · exact .pure _
    · exact .pure _
  · split
    · refine .bind ?_ fun _ => .pure _
      unfold Eval.decoded
      split
      · exact .pure _
      · exact .throw (.of_none rfl)
    · exact .pure _

theorem failsOnly_given {F : Failure → Prop} (name : String) :
    FailsOnly F (Settings.given? name) := by
  refine .bind (fun _ _ _ h => by cases h) fun found => ?_
  split
  · split <;> exact .pure _
  · exact .pure _

end

/-! ## Codes -/

theorem coded_config (fault : ConfigFault) : Coded ExitCode.general (.config fault) := by
  rintro _ ⟨⟩
  rfl

theorem coded_yaml (fault : Yaml.Fault) : Coded ExitCode.schema (Load.yamlFailure fault) := by
  cases fault with
  | malformed =>
    rintro _ ⟨⟩
    rfl
  | _ => exact .of_none rfl

theorem coded_load (fault : LoadFault) : Coded ExitCode.schema (.load fault) := by
  rintro _ ⟨⟩
  rfl

theorem coded_authoring (fault : AuthoringFault) : Coded ExitCode.schema (.authoring fault) := by
  rintro _ ⟨⟩
  rfl

theorem coded_library {library : Cli.Library} {reference : String} {f : Failure}
    (h : library.tree reference = .error f) : Coded ExitCode.schema f := by
  unfold Cli.Library.tree at h
  dsimp only at h
  rcases Outcome.bind_eq_error.1 h with h | ⟨members, -, h⟩
  · unfold Cli.Library.module at h
    split at h
    · cases h
    · cases h
      exact coded_load _
  · split at h
    · cases h
      exact coded_load _
    · cases h
    · exact coded_mapError coded_authoring h
    · cases h
    · cases h
      exact coded_load _

/-! ## Settings -/

theorem coded_ofProgram {source : String} {program : Regex.Program} {f : Failure}
    (h : Pattern.ofProgram source program = .error f) : Coded ExitCode.general f := by
  rw [Pattern.ofProgram] at h
  split at h
  · cases h
  · cases h
    exact coded_config _

variable [Platform]

theorem coded_pattern {choice : PatternChoice} {f : Failure} (h : Pattern.of choice = .error f) :
    Coded ExitCode.general f := by
  cases choice with
  | usual => cases h
  | compiled source program => exact coded_ofProgram h
  | source source =>
    rw [Pattern.of, Pattern.read] at h
    split at h
    · cases h
      exact .of_none rfl
    split at h
    · rename_i fault _
      cases h
      cases fault with
      | malformed => exact coded_config _
      | _ => exact .of_none rfl
    · exact coded_ofProgram h

theorem coded_ofEntries {entries request : Dict} {f : Failure}
    (h : Settings.ofEntries entries request = .error f) : Coded ExitCode.general f := by
  unfold Settings.ofEntries at h
  dsimp only at h
  split at h
  · rcases Outcome.bind_eq_error.1 h with h | ⟨_, _, ⟨⟩⟩
    exact coded_pattern h
  · cases h
    exact coded_config _

theorem coded_project (directory : FileName) :
    FailsOnly (Coded ExitCode.general) (Settings.project? directory) := by
  refine .bind (coded_text _) fun found => ?_
  split
  · exact .pure _
  · split
    · exact .pure _
    · exact .throw (coded_config _)
    · rename_i fault _
      refine .throw ?_
      cases fault with
      | malformed => exact coded_config _
      | _ => exact .of_none rfl

/-- Settings fail with the general code. -/
theorem coded_settings (pattern address : Option String) :
    FailsOnly (Coded ExitCode.general) (Settings.resolve pattern address) := by
  refine .bind .get fun w => .bind (coded_project _) fun found => ?_
  -- the mapping for requests is read in three ways, and all go on with the variables
  dsimp only
  split
  · split
    all_goals
      refine .bind ?_ fun _ => .bind (failsOnly_given _) fun _ => .bind (failsOnly_given _) fun _ =>
        .bind (failsOnly_given _) fun _ => .ofExcept fun f h => coded_ofEntries h
    · exact .ofExcept fun f h => coded_mapping h
    · exact .pure []
  · exact .bind (.pure []) fun _ => .bind (failsOnly_given _) fun _ => .bind (failsOnly_given _)
      fun _ => .bind (failsOnly_given _) fun _ => .ofExcept fun f h => coded_ofEntries h

/-! ## Loading -/

theorem coded_parseYaml {text : String} {f : Failure} (h : Load.parseYaml text = .error f) :
    Coded ExitCode.schema f := by
  unfold Load.parseYaml at h
  split at h
  · cases h
    exact .of_none rfl
  · exact coded_mapError coded_yaml h

theorem coded_parse {hint : Load.Hint} {text : String} {f : Failure}
    (h : Load.parse hint text = .error f) : Coded ExitCode.schema f := by
  unfold Load.parse at h
  split at h
  · exact coded_parseYaml h
  · split at h
    · cases h
    · rename_i fault _
      cases fault with
      | malformed =>
        cases hint with
        | json =>
          cases h
          exact coded_load _
        | _ => exact coded_parseYaml h
      | _ =>
        cases h
        exact .of_none rfl

theorem coded_document {doc : Value} {f : Failure} (h : Document.tree doc = .error f) :
    Coded ExitCode.schema f := by
  rcases (Document.fails_tree h).uncoded with ⟨fault, rfl⟩ | uncoded
  · exact coded_authoring fault
  · exact .of_none uncoded

open RunM (Confined)

theorem preparing_fromInput : Confined Act.Preparing (Coded ExitCode.schema) Load.fromInput := by
  refine .bind .get fun s => ?_
  split
  · exact .throw (coded_load _)
  · split
    · exact .throw (coded_load _)
    · exact .ofExcept fun f h => coded_parse h

theorem preparing_fromAddress (address : String) :
    Confined Act.Preparing (Coded ExitCode.schema) (Load.fromAddress address) := by
  refine .bind (.act trivial) fun _ => .bind .get fun s => ?_
  split
  · split
    · exact .bind (.ofExcept fun f h => coded_mapError (fun _ => .of_none rfl) h) fun text =>
        .ofExcept fun f h => coded_parse h
    · exact .throw (coded_load _)
  · split
    · exact .throw (coded_load _)
    · exact .throw (.of_none rfl)
  · exact .throw (.of_none rfl)

theorem preparing_fromFile (path : String) :
    Confined Act.Preparing (Coded ExitCode.schema) (Load.fromFile path) := by
  refine .bind (.ofEval (coded_text _)) fun found => ?_
  split
  · exact .throw (coded_load _)
  · split
    · exact .throw (coded_load _)
    · exact .ofExcept fun f h => coded_parse h

theorem preparing_load (source : String) :
    Confined Act.Preparing (Coded ExitCode.schema) (Load.tree source) := by
  refine .bind ?_ fun v => .ofExcept fun f h => coded_document h
  unfold Load.document
  split
  · exact preparing_fromInput
  · split
    · exact preparing_fromAddress source
    · exact preparing_fromFile source

theorem preparing_tree (x : Cli.Context) (source : String) :
    Confined Act.Preparing (Coded ExitCode.schema) (x.tree source) := by
  unfold Cli.Context.tree
  split
  · refine .bind (.ofEval (coded_lookup _)) fun found => ?_
    split
    · exact preparing_load source
    · exact .ofExcept fun f h => coded_library h
  · exact preparing_load source

/-- Loading and compiling fail with the code of schemas. -/
theorem preparing_compiled (x : Cli.Context) (source : String) (t : Settings) :
    Confined Act.Preparing (Coded ExitCode.schema) (x.compiled source t) := by
  refine .bind (.bind (preparing_tree x source) fun tree => ?_) fun tree => .bind
    (.ofExcept fun f h => coded_mapError coded_authoring h) fun c => .bind (.note trivial)
    fun _ => .pure c
  split
  · exact .pure _
  · split
    · exact .pure _
    · exact .bind (.present (preparing_debug _ _)) fun _ => .pure _

end RouteSchema
