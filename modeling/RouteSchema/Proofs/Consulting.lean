import RouteSchema.Proofs.Reading
import RouteSchema.Settings

/-!
# What settings consult

Settings come from three variables and from the project file. Computing them changes nothing, and it
ends in the same way in any two worlds that agree on these.

* `Alike`: a computation ends in the same way in two worlds, and leaves both as they are.
* `Indistinct`: two worlds agree on what settings and reports consult.
* `alike_resolve`: settings do not tell such worlds apart.
-/

namespace RouteSchema

open Stateful

/-! ## Computations in two worlds -/

/-- A computation ends in the same way in two worlds, and leaves both as they are. -/
def Alike {α : Type} (w w' : World) (x : Eval α) : Prop :=
  ∃ result, outcome x w = (result, w) ∧ outcome x w' = (result, w')

namespace Alike

variable {α β : Type} {w w' : World}

protected theorem pure (a : α) : Alike w w' (pure a) := ⟨.ok a, rfl, rfl⟩

theorem ofExcept (x : Except Failure α) : Alike w w' (ExceptT.mk (pure x) : Eval α) :=
  ⟨x, rfl, rfl⟩

protected theorem throw (f : Failure) : Alike w w' (throw f : Eval α) := ⟨.error f, rfl, rfl⟩

protected theorem bind {x : Eval α} {next : α → Eval β} (first : Alike w w' x)
    (rest : ∀ a, Alike w w' (next a)) : Alike w w' (x >>= next) := by
  obtain ⟨result, here, there⟩ := first
  cases result with
  | error f => exact ⟨.error f, outcome_bind_error here next, outcome_bind_error there next⟩
  | ok a =>
    obtain ⟨result, here', there'⟩ := rest a
    exact ⟨result, (outcome_bind_ok here next).trans here',
      (outcome_bind_ok there next).trans there'⟩

/-- A look at the world goes on in the same way where it finds the same. -/
theorem bind_get {next : World → Eval α} (same : next w = next w') (rest : Alike w w' (next w)) :
    Alike w w' (get >>= next) := by
  obtain ⟨result, here, there⟩ := rest
  rw [same] at there
  exact ⟨result, here, there⟩

theorem variableOf {name : String}
    (same : Assoc.get? w.variables name = Assoc.get? w'.variables name) :
    Alike w w' (Eval.variableOf name) :=
  ⟨.ok (Assoc.get? w.variables name), rfl, same ▸ rfl⟩

theorem text? {f : FileName} (same : w.find f = w'.find f) : Alike w w' (Eval.text? f) :=
  ⟨_, outcome_text f w, same ▸ outcome_text f w'⟩

end Alike

/-! ## Settings -/

/-- The project file of a world. -/
def World.project (w : World) : FileName := w.directory.below (.ofString Settings.projectName)

/-- The variables that settings and reports consult. -/
def consulted : List String :=
  [Settings.patternVariable, Settings.addressVariable, Settings.timeoutVariable, "NO_COLOR", "TERM"]

/-- Two worlds agree on the working directory, on the variables that are consulted, and on the
project file. They may differ in every other variable and file. -/
structure Indistinct (w w' : World) : Prop where
  directory : w.directory = w'.directory
  environ : ∀ name ∈ consulted, Assoc.get? w.variables name = Assoc.get? w'.variables name
  project : w.find w.project = w'.find w'.project

theorem Indistinct.refl (w : World) : Indistinct w w := ⟨rfl, fun _ _ => rfl, rfl⟩

section

variable {w w' : World}

theorem alike_given (h : Indistinct w w') {name : String} (listed : name ∈ consulted) :
    Alike w w' (Settings.given? name) := by
  refine .bind (.variableOf (h.environ name listed)) fun found => ?_
  split
  · split <;> exact .pure _
  · exact .pure _

variable [Platform]

theorem alike_project (h : Indistinct w w') :
    Alike w w' (Settings.project? w.directory) := by
  have same : w.find w.project = w'.find w.project := by
    have project := h.project
    rwa [World.project, World.project, ← h.directory] at project
  refine .bind (.text? same) fun found => ?_
  split
  · exact .pure _
  · split
    · exact .pure _
    · exact .throw _
    · exact .throw _

/-- Settings come to the same in worlds that agree on what is consulted. -/
theorem alike_resolve (h : Indistinct w w') (pattern address : Option String) :
    Alike w w' (Settings.resolve pattern address) := by
  refine .bind_get (by rw [h.directory]) (.bind (alike_project h) fun found => ?_)
  have given : ∀ name ∈ consulted, Alike w w' (Settings.given? name) := fun name listed =>
    alike_given h listed
  -- the mapping for requests is read in three ways, and all go on with the variables
  dsimp only
  split
  · split
    all_goals
      refine .bind ?_ fun _ => .bind (given _ (by decide)) fun _ => .bind (given _ (by decide))
        fun _ => .bind (given _ (by decide)) fun _ => .ofExcept _
    · exact .ofExcept _
    · exact .pure []
  · exact .bind (.pure []) fun _ => .bind (given _ (by decide)) fun _ =>
      .bind (given _ (by decide)) fun _ => .bind (given _ (by decide)) fun _ => .ofExcept _

theorem readOnly_settings (pattern address : Option String) :
    ReadOnly (Settings.resolve pattern address) := by
  intro w
  obtain ⟨result, ends, -⟩ := alike_resolve (.refl w) pattern address
  rw [ends]

end

end RouteSchema
