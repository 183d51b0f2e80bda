import RouteSchema.Proofs.Echoing

/-!
# Inspecting endpoints

A command shows an endpoint with the values of its attributes. Once these are computed nothing can
fail but the rendering, and that is where a value counts that has no JSON text: it ends the command
as a failure that nothing accounts for.

* `Renders` says what comes of showing data: `ends_render`.
* `Rendered` tells the values with which an endpoint can be shown: `showable_details_iff`.
* `Inspects` says that the values of an endpoint can be computed: `ends_inspect`.
* `show_renders`: when data is shown, and when a command line that shows an endpoint succeeds.
-/

namespace RouteSchema.Cli

open Stateful

variable {source id : String} {s s' : Run} {t : Settings} {r : Resolved}

section

variable [Platform]

/-! ## Showing data -/

/-- What comes of showing data. If it can be shown and the platform shows it, it is shown as a whole;
otherwise it is shown up to what fails, and the failure has no exit code of its own. -/
inductive Renders (report : Report) (data : Value) : Except Failure Unit → List Act → Prop
  | whole {shown : List Shown} (showable : Showable report.form data) (fits : Fits report.form data)
      (response : report.response data = .ok shown) :
      Renders report data (.ok ()) (shown.map .showing)
  | part {f : Failure} (unshown : ¬(Showable report.form data ∧ Fits report.form data))
      (uncoded : f.exitCode? = none) :
      Renders report data (.error f) ((Report.leading (report.responseSteps data)).map .showing)

namespace Renders

variable {report : Report} {data : Value} {result : Except Failure Unit} {acts : List Act}

theorem isData (h : Renders report data result acts) : ∀ a ∈ acts, a.isData = true := by
  have leading : ∀ m ∈ Report.leading (report.responseSteps data), m.isData = true :=
    fun m hm => isData_response (mem_leading hm)
  cases h with
  | whole _ _ response =>
    rw [leading_of_mapM response] at leading
    exact List.forall_mem_map.2 leading
  | part => exact List.forall_mem_map.2 leading

theorem ok_iff (h : Renders report data result acts) :
    result = .ok () ↔ Showable report.form data ∧ Fits report.form data := by
  cases h with
  | whole showable fits => exact ⟨fun _ => ⟨showable, fits⟩, fun _ => rfl⟩
  | part unshown => exact ⟨nofun, fun shown => absurd shown unshown⟩

end Renders

/-- Showing data ends in one of these ways, whatever has been done before. -/
theorem ends_render (x : Context) (data : Value) (s : Run) : ∃ result acts s',
    RunM.Ends (x.render data) s result acts s' ∧ Renders x.report data result acts := by
  have adds := (adds_render x data s).ends
  cases response : x.report.response data with
  | ok shown =>
    rw [response, leading_of_mapM response] at adds
    obtain ⟨showable, fits⟩ := exists_response_iff.1 ⟨shown, response⟩
    exact ⟨_, _, _, adds, .whole showable fits response⟩
  | error f =>
    rw [response] at adds
    refine ⟨_, _, _, adds, .part (fun shown => ?_) (uncoded_response response)⟩
    obtain ⟨_, shown⟩ := exists_response_iff.2 shown
    cases response.symm.trans shown

end

/-! ## Endpoints as data -/

/-- A value with which an endpoint can be shown in a form. -/
def Rendered (form : DataForm) (v : Value) : Prop :=
  match form with
  | .plain => v.printable = true
  | .json | .styled => Writable .indented v

theorem writable_nameValue (name : Option String) : Writable .indented (nameValue name) := by
  cases name with
  | none => exact .null
  | some name => exact .text name

theorem printable_nameValue (name : Option String) : (nameValue name).printable = true := by
  cases name <;> rfl

theorem writable_details_iff {pattern : Pattern} :
    Writable .indented (Context.details pattern r) ↔
      ∀ e ∈ r.attributes, Writable .indented e.2 := by
  have key (s : String) : Nameable (.text s) := .text s
  have text (s : String) : Writable .indented (.text s) := .text s
  have names : Writable .indented (.list ((pattern.names r.path).map nameValue)) :=
    .list (List.forall_mem_map.2 fun name _ => writable_nameValue name)
  have attributes : Writable .indented (.dict (r.attributes.map fun e => (.text e.1, e.2))) ↔
      ∀ e ∈ r.attributes, Writable .indented e.2 := by
    rw [writable_dict_iff, List.forall_mem_map]
    exact forall₂_congr fun e _ => and_iff_right (key e.1)
  rw [Context.details, writable_dict_iff, ← attributes]
  simp [key, text, names]

theorem printable_lines_details_iff {pattern : Pattern} :
    (∀ part ∈ lineParts (Context.details pattern r), part.printable = true) ↔
      ∀ e ∈ r.attributes, e.2.printable = true := by
  have text (s : String) : Value.printable (.text s) = true := rfl
  have names : Value.printable (.list ((pattern.names r.path).map nameValue)) = true :=
    Value.allPrintable_iff.2 (List.forall_mem_map.2 fun name _ => printable_nameValue name)
  have attributes : Value.printable (.dict (r.attributes.map fun e => (.text e.1, e.2))) = true ↔
      ∀ e ∈ r.attributes, e.2.printable = true := by
    rw [Value.printable, Value.entriesPrintable_iff, List.forall_mem_map]
    exact forall₂_congr fun e _ => and_iff_right (text e.1)
  rw [Context.details, lineParts, ← attributes]
  simp [names, text]

/-- An endpoint can be shown exactly if the value of each of its attributes can. -/
theorem showable_details_iff {form : DataForm} {pattern : Pattern} :
    Showable form (Context.details pattern r) ↔ ∀ e ∈ r.attributes, Rendered form e.2 := by
  cases form with
  | json | styled => exact writable_details_iff
  | plain => exact printable_lines_details_iff

/-! ## Showing endpoints -/

theorem known_of_resolve {c : Compiled} {w w' : World}
    (h : outcome (c.resolve id) w = (.ok r, w')) : id ∈ c.ids := by
  have found : ∃ d, c.definition id = .ok d := by
    cases looked : c.definition id with
    | ok d => exact ⟨d, rfl⟩
    | error f =>
      rw [Compiled.resolve, looked] at h
      cases h
  obtain ⟨d, found⟩ := found
  unfold Compiled.definition at found
  split at found
  · exact List.mem_map.2 ⟨_, Assoc.mem_of_get? ‹_›, rfl⟩
  · cases found

theorem outputs_account (report : Report) (f : Failure) :
    (account report f).filter Act.isData = [] := by
  have worded (text : String) : ∀ a ∈ (report.error text).map Act.showing, a.Mute :=
    List.forall_mem_map.2 fun m hm => (preparing_message _ _ _ m hm).mute
  unfold account
  split
  · exact outputs_of_mute (worded _)
  · exact outputs_of_mute (List.forall_mem_cons.2 ⟨rfl, worded _⟩)

/-- A failure without an exit code of its own is described. -/
theorem crashes_of_uncoded (report : Report) {f : Failure} (h : f.exitCode? = none) :
    exitCode (.error f) = 1 ∧ Act.crash f ∈ conclusion report (.error f) := by
  rw [exitCode, Failure.exitCode, conclusion, account, h]
  exact ⟨rfl, List.mem_cons_self⟩

section

variable [Platform] {x : Context}

/-- A schema is compiled under settings, and the values of an endpoint of it are computed. -/
def Inspects (x : Context) (source id : String) (s : Run) (t : Settings) (r : Resolved) : Prop :=
  ∃ c between after w, outcome x.settings s = (.ok t, between) ∧
    outcome (x.compiled source t) between = (.ok c, after) ∧
    outcome (c.resolve id) after.world = (.ok r, w)

/-- An endpoint whose values can be computed is shown, and all that is done before is preparation. -/
theorem ends_inspect (h : Inspects x source id s t r) : ∃ before result shown s',
    RunM.Ends (x.run (.inspect source id)) s result (before ++ shown) s' ∧
      (∀ a ∈ before, Act.Preparing a) ∧
      Renders x.report (Context.details t.pattern r) result shown := by
  obtain ⟨c, between, after, w, settings, schema, resolved⟩ := h
  obtain ⟨acts, first, preparing⟩ := (preparing_settings x).exists_ends settings
  obtain ⟨acts', second, preparing'⟩ := (preparing_compiled x source t).exists_ends schema
  have known : Context.requireEndpoint c id = pure () :=
    if_pos (List.contains_iff_mem.2 (known_of_resolve resolved))
  have third : RunM.Ends (RunM.ofEval (c.resolve id)) after (.ok r) [] { after with world := w } :=
    .of_still (by rw [RunM.outcome_ofEval, resolved]) rfl
  obtain ⟨result, shown, s', ends, renders⟩ :=
    ends_render x (Context.details t.pattern r) { after with world := w }
  refine ⟨acts ++ acts', result, shown, s', ?_, List.forall_mem_append.2 ⟨preparing, preparing'⟩,
    renders⟩
  rw [List.append_assoc]
  refine first.bind (second.bind ?_)
  rw [known]
  exact third.bind ends

/-- What a command line does that shows an endpoint whose values can be computed. -/
theorem inspects_runLine {library : Library} {terminal : Bool} {args : List String}
    {shared : Shared} (line : Line.read args = .command shared (.inspect source id))
    (h : Inspects (Context.of library terminal shared s) source id s t r) :
    let report := (Context.of library terminal shared s).report
    ∃ before result shown s',
      RunM.Ends (runLine library terminal args) s (.ok (exitCode result))
        (before ++ shown ++ conclusion report result) s' ∧
      Renders report (Context.details t.pattern r) result shown ∧
      (before ++ shown ++ conclusion report result).filter Act.isData = shown := by
  intro report
  obtain ⟨before, result, shown, s', ends, preparing, renders⟩ := ends_inspect h
  have concluded : (conclusion report result).filter Act.isData = [] := by
    cases result with
    | ok => rfl
    | error f => exact outputs_account report f
  refine ⟨before, result, shown, _, concludes_runLine line ends, renders, ?_⟩
  rw [List.filter_append, List.filter_append, outputs_of_preparing preparing, concluded,
    List.filter_eq_self.2 renders.isData, List.append_nil, List.nil_append]

/-- **An endpoint whose values can be computed is shown with success exactly if each of these values
can be shown and the platform shows them.** Data of any kind is shown on the standard output only, and
as a whole exactly if it can be shown in the form, the stack suffices, and the output refuses nothing
of it. What is not shown ends the command line as a failure that nothing accounts for. -/
theorem show_renders (library : Library) (terminal : Bool) (s : Run) :
    (∀ (x : Context) (data : Value), ∃ result acts s',
      RunM.Ends (x.render data) s result acts s' ∧ (∀ a ∈ acts, a.isData = true) ∧
      (result = .ok () ↔ Showable x.report.form data ∧ Fits x.report.form data) ∧
      (result = .ok () → ∃ shown, x.report.response data = .ok shown ∧
        acts = shown.map .showing)) ∧
    ∀ (args : List String) (shared : Shared) (source id : String) (t : Settings) (r : Resolved),
      Line.read args = .command shared (.inspect source id) →
      let x := Context.of library terminal shared s
      Inspects x source id s t r → ∃ code acts s',
        RunM.Ends (runLine library terminal args) s (.ok code) acts s' ∧
        (code = 0 ↔ (∀ e ∈ r.attributes, Rendered x.report.form e.2) ∧
          Fits x.report.form (Context.details t.pattern r)) ∧
        (code = 0 → ∃ shown, x.report.response (Context.details t.pattern r) = .ok shown ∧
          acts.filter Act.isData = shown.map .showing) ∧
        (code ≠ 0 → code = 1 ∧ ∃ f, Act.crash f ∈ acts) := by
  constructor
  · intro x data
    obtain ⟨result, acts, s', ends, renders⟩ := ends_render x data s
    refine ⟨result, acts, s', ends, renders.isData, renders.ok_iff, ?_⟩
    rintro rfl
    cases renders with
    | whole _ _ response => exact ⟨_, response, rfl⟩
  · intro args shared source id t r line x inspects
    obtain ⟨before, result, shown, s', ends, renders, outputs⟩ := inspects_runLine line inspects
    refine ⟨_, _, s', ends, ?_⟩
    cases renders with
    | whole showable fits response =>
      exact ⟨iff_of_true rfl ⟨showable_details_iff.1 showable, fits⟩,
        fun _ => ⟨_, response, outputs⟩, absurd rfl⟩
    | @part f unshown uncoded =>
      obtain ⟨one, crashes⟩ := crashes_of_uncoded x.report uncoded
      rw [one]
      exact ⟨iff_of_false (by decide) fun shown =>
        unshown ⟨showable_details_iff.2 shown.1, shown.2⟩, fun zero => absurd zero (by decide),
        fun _ => ⟨rfl, f, List.mem_append_right _ crashes⟩⟩

end

/-- A schema with one endpoint, at which an attribute has a value. -/
def almanac (v : Value) : SchemaTree where
  address := "https://svc.com"
  root := ⟨[.literal "data" v], [], some "view", none⟩

/-- A library with an almanac in it. -/
def almanacs (v : Value) : Library := [("m", [("t", .tree (almanac v))])]

/-- The endpoint of an almanac. -/
def almanacView (v : Value) : Resolved where
  id := "view"
  path := "https://svc.com"
  method := .get
  attributes := [("data", v)]

theorem almanac_flatten (v : Value) : (almanac v).flatten =
    .ok [⟨"view", "https://svc.com", .get, [("data", .literal "data" v)]⟩] := by
  have view (place : String) : checkId place (some "view") = .ok "view" :=
    checkId_of_identifier (by decide) (by decide +kernel) (by decide +kernel) (by decide +kernel) _
  simp [SchemaTree.flatten, almanac, Node.definitions, mergeAttributes, view, Attribute.literal,
    reservedKeys, Assoc.insert, firstRepeated?, Assoc.get?, bind, Except.bind, pure, Except.pure]

/-- The value in an almanac can be computed, whatever it is. -/
theorem inspects_almanac (v : Value) :
    @Inspects .usual (Context.of (almanacs v) false asJson (visit [] [])) "m:t" "view"
      (visit [] []) ⟨.usual, none, {}⟩ (almanacView v) :=
  let _ : Platform := .usual
  ⟨_, _, _, _, settings_of_unset rfl, outcome_compiled_of_tree (tree_of_entry (almanac v))
    (Compiled.ofTree_of_flatten (almanac_flatten v)) [] [], rfl⟩

theorem read_inspecting :
    Line.read ["--json", "show", "m:t", "view"] = .command asJson (.inspect "m:t" "view") := by
  decide +kernel

/-- Values that JSON does not know are shown, and so are keys that are numbers. -/
theorem show_renders_almanac :
    let _ : Platform := .usual
    let v : Value := .dict [(.int 1, .set [.date ⟨2024, 1, 2⟩]), (.null, .tuple [.handle "clock"])]
    ∃ acts s' text, RunM.Ends (runLine (almanacs v) false ["--json", "show", "m:t", "view"])
      (visit [] []) (.ok 0) acts s' ∧ acts.filter Act.isData = [.showing (.out text)] := by
  intro _ v
  have few : Value.isShort 1 = true := by decide +kernel
  have set : Writable .indented (.set [.date ⟨2024, 1, 2⟩]) := .foreign rfl trivial rfl
  have tuple : Writable .indented (.tuple [.handle "clock"]) :=
    .tuple (List.forall_mem_singleton.2 (.foreign rfl trivial rfl))
  have writable : Writable .indented v := by
    refine writable_dict_iff.2 (List.forall_mem_cons.2 ⟨⟨.int few, set⟩, ?_⟩)
    exact List.forall_mem_singleton.2 ⟨.null, tuple⟩
  obtain ⟨code, acts, s', ends, succeeds, outputs, -⟩ :=
    (show_renders (almanacs v) false (visit [] [])).2 _ _ _ _ _ _ read_inspecting
      (inspects_almanac v)
  have zero : code = 0 := succeeds.2 ⟨List.forall_mem_singleton.2 writable, fits_usual _ _⟩
  obtain ⟨shown, response, filtered⟩ := outputs zero
  obtain ⟨text, -, rfl⟩ := response_of_json rfl response
  exact ⟨acts, s', _, zero ▸ ends, filtered⟩

theorem crashes_of_not_writable {v : Value} (h : ¬Writable .indented v) : ∃ acts s' f,
    RunM.Ends (@runLine .usual (almanacs v) false ["--json", "show", "m:t", "view"]) (visit [] [])
      (.ok 1) acts s' ∧ Act.crash f ∈ acts := by
  let _ : Platform := .usual
  obtain ⟨before, result, shown, s', ends, renders, -⟩ :=
    inspects_runLine read_inspecting (inspects_almanac v)
  cases renders with
  | whole showable =>
    exact absurd (showable_details_iff.1 showable _ List.mem_cons_self) h
  | @part f _ uncoded =>
    obtain ⟨one, crashes⟩ := crashes_of_uncoded
      (Context.of (almanacs v) false asJson (visit [] [])).report uncoded
    exact ⟨_, s', f, one ▸ ends, List.mem_append_right _ crashes⟩

/-- The values of an endpoint can be computed, and still a date as a key keeps it from being shown,
and so does a number of 4301 digits. -/
theorem show_crashes :
    let _ : Platform := .usual
    let dated : Value := .dict [(.date ⟨2024, 1, 2⟩, .text "start")]
    let long : Value := .int (10 ^ 4300)
    (∃ t r, Inspects (Context.of (almanacs dated) false asJson (visit [] [])) "m:t" "view"
      (visit [] []) t r) ∧
    (∃ acts s' f, RunM.Ends (runLine (almanacs dated) false ["--json", "show", "m:t", "view"])
      (visit [] []) (.ok 1) acts s' ∧ Act.crash f ∈ acts) ∧
    (∃ t r, Inspects (Context.of (almanacs long) false asJson (visit [] [])) "m:t" "view"
      (visit [] []) t r) ∧
    ∃ acts s' f, RunM.Ends (runLine (almanacs long) false ["--json", "show", "m:t", "view"])
      (visit [] []) (.ok 1) acts s' ∧ Act.crash f ∈ acts := by
  intro _ dated long
  have named : ¬Writable .indented dated := by
    intro writable
    obtain ⟨name, -⟩ := writable_dict_iff.1 writable _ List.mem_cons_self
    cases name
  have many : ¬Writable .indented long := fun writable =>
    absurd (writable_int_iff.1 writable) (by decide +kernel)
  exact ⟨⟨_, _, inspects_almanac dated⟩, crashes_of_not_writable named,
    ⟨_, _, inspects_almanac long⟩, crashes_of_not_writable many⟩

end RouteSchema.Cli
