import RouteSchema.Proofs.Loading
import RouteSchema.Proofs.Spelling

/-!
# What configuration comes to

Settings are read from the project file, from variables and from the command line, and checked field
by field. They come out with a pattern that is accepted, or there is a fault of the configuration.
Besides these, some failures of the file and of values that are not checked pass through as they are.

* `Settings.Misconfigured` lists the faults, and `Settings.Escapes` the failures that pass through.
* `Settings.configures_iff`: settings come out exactly in these ways.
* `settings_accounted`: what a command line makes of them.
-/

namespace RouteSchema

open Stateful

/-- What a variable says: nothing if it is not set or empty. -/
def World.given? (w : World) (name : String) : Option Value :=
  match Assoc.get? w.variables name with
  | some value => if value == "" then none else some (.text value)
  | none => none

namespace Settings

/-- The text of the project file. -/
inductive Content (w : World) : String → Prop
  | file {bytes : List UInt8} {decoded : String} (found : w.find w.project = .entry (.file bytes))
      (decodes : Utf8.decode bytes = .ok decoded) :
      Content w (String.ofList (Eval.lineFeeds decoded.toList))

/-- The mapping for requests in the project. -/
def requestOf (entries : Dict) : Except Failure Dict :=
  match entries.getText? "request" with
  | some v => if v.truthy then v.mapping else .ok []
  | none => .ok []

/-- The members of the project, under those of the variables, under those of the command line. -/
def merged (w : World) (pattern address : Option String) (entries : Dict) : Dict :=
  let entries := withMember entries "parameter_pattern" (w.given? patternVariable)
  let entries := withMember entries "base_url" (w.given? addressVariable)
  let entries := withMember entries "parameter_pattern" (pattern.map .text)
  withMember entries "base_url" (address.map .text)

/-- The mapping for requests under the variable. -/
def requests (w : World) (request : Dict) : Dict :=
  withMember request "timeout" (w.given? timeoutVariable)

/-! ## Reading -/

section

variable {w : World}

theorem outcome_given (name : String) (w : World) :
    outcome (Settings.given? name) w = (.ok (w.given? name), w) := by
  have looked : outcome (Eval.variableOf name) w = (.ok (Assoc.get? w.variables name), w) := rfl
  rw [Settings.given?, outcome_bind_ok looked, World.given?]
  cases Assoc.get? w.variables name with
  | none => rfl
  | some value =>
    dsimp only
    split <;> rfl

/-- What there is in the place of the project file. -/
theorem content_cases (w : World) :
    ((∀ bytes, w.find w.project ≠ .entry (.file bytes)) ∧ w.find w.project ≠ .nameTooLong) ∨
    w.find w.project = .nameTooLong ∨
    (∃ bytes fault, w.find w.project = .entry (.file bytes) ∧ Utf8.decode bytes = .error fault) ∨
    ∃ text, Content w text := by
  rcases found : w.find w.project with _ | _ | bytes | _
  · simp
  · simp
  · cases decodes : Utf8.decode bytes with
    | error fault => simp [decodes]
    | ok decoded => exact .inr (.inr (.inr ⟨_, .file found decodes⟩))
  · simp

theorem requestOf_eq_error {entries : Dict} {f : Failure} : requestOf entries = .error f ↔
    ∃ v, entries.getText? "request" = some v ∧ v.truthy = true ∧ v.mapping = .error f := by
  unfold requestOf
  cases entries.getText? "request" with
  | none => simp
  | some v => by_cases counts : v.truthy = true <;> simp [counts]

/-- A field without faults is converted. -/
theorem faults_eq_nil_iff {α : Type} {location : List String} {x : Except String α} :
    Field.faults location x = [] ↔ ∃ a, x = .ok a := by
  cases x <;> simp [Field.faults]

theorem faults_of_transportOf {location : List String} {entries : Dict} {faults : List FieldFault}
    (h : transportOf location entries = .error faults) : faults ≠ [] := by
  unfold transportOf at h
  dsimp only at h
  split at h
  · cases h
  · rename_i unfit
    cases h
    intro none
    simp only [List.append_eq_nil_iff, faults_eq_nil_iff] at none
    obtain ⟨⟨⟨timeout, first⟩, verify, second⟩, retries, third⟩ := none
    exact unfit timeout verify retries first second third

end

/-! ## What settings come to -/

variable [Platform]

/-- The members of the project: those of an object in its file, and none without a file. -/
inductive Projects (w : World) : Dict → Prop
  | absent (missing : ∀ bytes, w.find w.project ≠ .entry (.file bytes))
      (short : w.find w.project ≠ .nameTooLong) : Projects w []
  | object {text : String} {entries : Dict} (content : Content w text)
      (reads : Json.readAt .settings text = .ok (.dict entries)) : Projects w entries

/-- The source of the pattern. -/
def sourceOf (entries : Dict) : Except String (Option String) :=
  member entries "parameter_pattern" none fun v => (textField v).map some

/-- The address. -/
def addressOf (entries : Dict) : Except String (Option String) :=
  member entries "base_url" none addressField

/-- The fields whose values do not fit. -/
def misfits (entries request : Dict) : List FieldFault :=
  Field.faults ["parameter_pattern"] (sourceOf entries) ++
    Field.faults ["base_url"] (addressOf entries) ++
    match transportOf ["request"] request with
    | .ok _ => []
    | .error faults => faults

/-- What is checked: the members and the mapping for requests, with everything laid over them. -/
inductive Checked (w : World) (pattern address : Option String) : Dict → Dict → Prop
  | intro {entries request : Dict} (project : Projects w entries)
      (requested : requestOf entries = .ok request) :
      Checked w pattern address (merged w pattern address entries) (requests w request)

variable (w : World) (pattern address : Option String)

/-- The faults of the configuration. -/
inductive Misconfigured : ConfigFault → Prop
  | unreadable {text : String} {flaw : Json.Flaw} {offset : Nat} (content : Content w text)
      (fails : Json.readAt .settings text = .error (.malformed flaw offset)) :
      Misconfigured (.unreadableProject w.project.toString
        (Json.Fault.message text (.malformed flaw offset)))
  | notObject {text : String} {v : Value} (content : Content w text)
      (reads : Json.readAt .settings text = .ok v) (other : ∀ entries, v ≠ .dict entries) :
      Misconfigured (.projectNotObject w.project.toString)
  | fields {entries request : Dict} (checked : Checked w pattern address entries request)
      (some : misfits entries request ≠ []) :
      Misconfigured (.invalidSettings (misfits entries request))
  | pattern {entries request : Dict} {source : Option String} {fault : PatternFault}
      (checked : Checked w pattern address entries request) (fits : misfits entries request = [])
      (chosen : sourceOf entries = .ok source)
      (refused : Pattern.of (.source (source.getD Pattern.usualSource)) =
        .error (.config (.pattern fault))) :
      Misconfigured (.pattern fault)

/-- The failures that pass through as they are. -/
inductive Escapes : Failure → Prop
  | longName (found : w.find w.project = .nameTooLong) :
      Escapes (.system ("[Errno 36] File name too long: " ++ Text.quoted w.project.toString))
  | undecodable {bytes : List UInt8} {fault : Utf8.Fault}
      (found : w.find w.project = .entry (.file bytes)) (fails : Utf8.decode bytes = .error fault) :
      Escapes (.undecodable fault)
  /-- An integer of the project file has too many digits, or the file nests too deep. -/
  | json {text : String} {fault : Json.Fault} {f : Failure} (content : Content w text)
      (fails : Json.readAt .settings text = .error fault) (passed : fault.failure? text = some f) :
      Escapes f
  /-- The member for requests counts as something, but is no mapping. -/
  | request {entries : Dict} {v : Value} {f : Failure} (project : Projects w entries)
      (found : entries.getText? "request" = some v) (counts : v.truthy = true)
      (fails : v.mapping = .error f) : Escapes f
  /-- The pattern nests too deep. -/
  | deep {entries request : Dict} {source : Option String}
      (checked : Checked w pattern address entries request) (fits : misfits entries request = [])
      (chosen : sourceOf entries = .ok source)
      (deep : Platform.exhausts (.readPattern (source.getD Pattern.usualSource)) = true) :
      Escapes (.broken .tooDeep)
  /-- The pattern has the form of a regular expression, but it is none. -/
  | pattern {entries request : Dict} {source : String} {fault : Regex.Fault}
      (checked : Checked w pattern address entries request) (fits : misfits entries request = [])
      (chosen : sourceOf entries = .ok (some source))
      (shallow : Platform.exhausts (.readPattern source) = false)
      (fails : Regex.readNamed Platform.characterNamed? source {} = .error fault)
      (other : fault ≠ .malformed) : Escapes (Pattern.failureOf source fault)

/-- How settings come out. -/
inductive Configures : Except Failure Settings → Prop
  | settings {entries request : Dict} {source own : Option String} {transport : Transport}
      {chosen : Pattern} (checked : Checked w pattern address entries request)
      (sources : sourceOf entries = .ok source) (addresses : addressOf entries = .ok own)
      (transports : transportOf ["request"] request = .ok transport)
      (accepted : Pattern.of (.source (source.getD Pattern.usualSource)) = .ok chosen) :
      Configures (.ok ⟨chosen, own, transport⟩)
  | fault {fault : ConfigFault} (h : Misconfigured w pattern address fault) :
      Configures (.error (.config fault))
  | escape {f : Failure} (h : Escapes w pattern address f) : Configures (.error f)

/-! ## Projects -/

variable {w pattern address}

/-- What the text of a project file comes to. -/
def objectOf (file text : String) : Except Failure (Option Dict) :=
  match Json.readAt .settings text with
  | .ok (.dict entries) => .ok (some entries)
  | .ok _ => .error (.config (.projectNotObject file))
  | .error fault => .error ((fault.failure? text).getD
      (.config (.unreadableProject file (fault.message text))))

theorem project_of_error {f : Failure}
    (h : outcome (Eval.text? w.project) w = (.error f, w)) :
    (outcome (project? w.directory) w).1 = .error f := by
  show (outcome (Eval.text? w.project >>= _) w).1 = _
  rw [outcome_bind_error h]

theorem project_of_content {text : String} (content : Content w text) :
    (outcome (project? w.directory) w).1 = objectOf w.project.toString text := by
  have read : outcome (Eval.text? w.project) w = (.ok (some text), w) := by
    obtain ⟨found, decodes⟩ := content
    rw [outcome_text, found]
    simp [decodes]
  show (outcome (Eval.text? w.project >>= _) w).1 = _
  rw [outcome_bind_ok read, objectOf]
  dsimp only
  rcases Json.readAt .settings text with fault | v
  · rfl
  · cases v <;> rfl

theorem project_of_absent (missing : ∀ bytes, w.find w.project ≠ .entry (.file bytes))
    (short : w.find w.project ≠ .nameTooLong) :
    (outcome (project? w.directory) w).1 = .ok none := by
  have nothing : outcome (Eval.text? w.project) w = (.ok none, w) := by
    rw [outcome_text]
    rcases found : w.find w.project with _ | _ | bytes | _
    · rfl
    · exact absurd found short
    · exact absurd found (missing bytes)
    · rfl
  show (outcome (Eval.text? w.project >>= _) w).1 = _
  rw [outcome_bind_ok nothing]
  rfl

theorem resolve_of_error {f : Failure} (h : (outcome (project? w.directory) w).1 = .error f) :
    (outcome (resolve pattern address) w).1 = .error f := by
  have looked : outcome (get : Eval World) w = (.ok w, w) := rfl
  obtain ⟨result, project, -⟩ := alike_project (.refl w)
  rw [project] at h
  subst h
  rw [resolve, outcome_bind_ok looked, outcome_bind_error project]

/-- With a project, settings are what its member for requests comes to, and then what the fields of
all that is laid over it come to. -/
theorem resolve_of_ok {found : Option Dict}
    (h : (outcome (project? w.directory) w).1 = .ok found) :
    (outcome (resolve pattern address) w).1 = requestOf (found.getD []) >>= fun request =>
      ofEntries (merged w pattern address (found.getD [])) (requests w request) := by
  have looked : outcome (get : Eval World) w = (.ok w, w) := rfl
  obtain ⟨result, project, -⟩ := alike_project (.refl w)
  rw [project] at h
  subst h
  -- However the mapping is read, the variables and the command line are laid over it.
  have laid : ∀ request, (outcome (do
      let entries := withMember (found.getD []) "parameter_pattern" (← given? patternVariable)
      let entries := withMember entries "base_url" (← given? addressVariable)
      let request := withMember request "timeout" (← given? timeoutVariable)
      let entries := withMember entries "parameter_pattern" (pattern.map .text)
      let entries := withMember entries "base_url" (address.map .text)
      ExceptT.mk (pure (ofEntries entries request)) : Eval Settings) w).1 =
        ofEntries (merged w pattern address (found.getD [])) (requests w request) := by
    intro request
    rw [outcome_bind_ok (outcome_given _ w), outcome_bind_ok (outcome_given _ w),
      outcome_bind_ok (outcome_given _ w)]
    rfl
  rw [resolve, outcome_bind_ok looked, outcome_bind_ok project]
  unfold requestOf
  dsimp only
  cases (found.getD []).getText? "request" with
  | none => exact laid []
  | some v =>
    dsimp only
    split
    · cases v.mapping with
      | error f => rfl
      | ok request => exact laid request
    · exact laid []

theorem resolve_of_longName (found : w.find w.project = .nameTooLong) :
    (outcome (resolve pattern address) w).1 =
      .error (.system ("[Errno 36] File name too long: " ++ Text.quoted w.project.toString)) := by
  have text := outcome_text w.project w
  rw [found] at text
  exact resolve_of_error (project_of_error text)

theorem resolve_of_undecodable {bytes : List UInt8} {fault : Utf8.Fault}
    (found : w.find w.project = .entry (.file bytes)) (fails : Utf8.decode bytes = .error fault) :
    (outcome (resolve pattern address) w).1 = .error (.undecodable fault) := by
  have text := outcome_text w.project w
  simp only [found, fails] at text
  exact resolve_of_error (project_of_error text)

/-- A text that is not read is refused, unless its fault is a failure of its own. -/
theorem resolve_of_unread {text : String} {fault : Json.Fault} (content : Content w text)
    (fails : Json.readAt .settings text = .error fault) :
    (outcome (resolve pattern address) w).1 = .error ((fault.failure? text).getD
      (.config (.unreadableProject w.project.toString (fault.message text)))) := by
  have project := project_of_content content
  rw [objectOf, fails] at project
  exact resolve_of_error project

/-- A text of another value than an object is refused. -/
theorem resolve_of_notObject {text : String} {v : Value} (content : Content w text)
    (reads : Json.readAt .settings text = .ok v) (other : ∀ entries, v ≠ .dict entries) :
    (outcome (resolve pattern address) w).1 =
      .error (.config (.projectNotObject w.project.toString)) := by
  refine resolve_of_error ((project_of_content content).trans ?_)
  rw [objectOf, reads]
  cases v <;> first | rfl | exact absurd rfl (other _)

theorem resolve_of_projects {entries : Dict} (h : Projects w entries) :
    (outcome (resolve pattern address) w).1 = requestOf entries >>= fun request =>
      ofEntries (merged w pattern address entries) (requests w request) := by
  cases h with
  | absent missing short => exact resolve_of_ok (project_of_absent missing short)
  | object content reads =>
    have project := project_of_content content
    rw [objectOf, reads] at project
    exact resolve_of_ok project

/-! ## Checking -/

/-- Fields that fit make settings if their pattern is accepted. -/
theorem ofEntries_of_fits {entries request : Dict} {source own : Option String}
    {transport : Transport} (sources : sourceOf entries = .ok source)
    (addresses : addressOf entries = .ok own)
    (transports : transportOf ["request"] request = .ok transport) :
    ofEntries entries request =
      (Pattern.of (.source (source.getD Pattern.usualSource))).map (⟨·, own, transport⟩) := by
  unfold sourceOf at sources
  unfold addressOf at addresses
  rw [ofEntries, sources, addresses, transports]
  dsimp only
  cases Pattern.of (.source (source.getD Pattern.usualSource)) <;> rfl

theorem misfits_eq_nil_iff {entries request : Dict} : misfits entries request = [] ↔
    ∃ source own transport, sourceOf entries = .ok source ∧ addressOf entries = .ok own ∧
      transportOf ["request"] request = .ok transport := by
  rw [misfits, List.append_eq_nil_iff, List.append_eq_nil_iff, faults_eq_nil_iff, faults_eq_nil_iff]
  cases transports : transportOf ["request"] request with
  | ok transport => simp
  | error faults => simp [faults_of_transportOf transports]

/-- The faults of fields that do not fit are those of all fields. -/
theorem ofEntries_of_misfits {entries request : Dict} (h : misfits entries request ≠ []) :
    ofEntries entries request = .error (.config (.invalidSettings (misfits entries request))) := by
  have unfit := mt misfits_eq_nil_iff.2 h
  unfold misfits sourceOf addressOf
  unfold sourceOf addressOf at unfit
  rw [ofEntries]
  dsimp only
  split
  · exact absurd ⟨_, _, _, ‹_›, ‹_›, ‹_›⟩ unfit
  · rfl

/-- A pattern is refused with a fault, or it nests too deep, or its source is no regular expression
for a reason that is not told from other failures. -/
theorem of_eq_error {source : String} {f : Failure} (h : Pattern.of (.source source) = .error f) :
    (∃ fault, f = .config (.pattern fault)) ∨
      (Platform.exhausts (.readPattern source) = true ∧ f = .broken .tooDeep) ∨
      ∃ fault, Platform.exhausts (.readPattern source) = false ∧
        Regex.readNamed Platform.characterNamed? source {} = .error fault ∧ fault ≠ .malformed ∧
        f = Pattern.failureOf source fault := by
  rw [Pattern.of, Pattern.read] at h
  split at h
  · cases h
    exact .inr (.inl ⟨‹_›, rfl⟩)
  rename_i shallow
  split at h
  · rename_i fault fails
    cases h
    by_cases malformed : fault = .malformed
    · subst malformed
      exact .inl ⟨_, rfl⟩
    · exact .inr (.inr ⟨fault, Bool.not_eq_true _ ▸ shallow, fails, malformed, rfl⟩)
  · rw [Pattern.ofProgram] at h
    split at h
    · cases h
    · cases h
      exact .inl ⟨_, rfl⟩

/-- What is checked comes out in one of the listed ways. -/
theorem configures_of_checked {entries request : Dict}
    (checked : Checked w pattern address entries request) :
    Configures w pattern address (ofEntries entries request) := by
  by_cases fits : misfits entries request = []
  · obtain ⟨source, own, transport, sources, addresses, transports⟩ := misfits_eq_nil_iff.1 fits
    rw [ofEntries_of_fits sources addresses transports]
    cases chosen : Pattern.of (.source (source.getD Pattern.usualSource)) with
    | ok p => exact .settings checked sources addresses transports chosen
    | error f =>
      rcases of_eq_error chosen with ⟨fault, rfl⟩ | ⟨deep, rfl⟩ | ⟨fault, shallow, fails, other, rfl⟩
      · exact .fault (.pattern checked fits sources chosen)
      · exact .escape (.deep checked fits sources deep)
      · cases source with
        | none => cases (Pattern.readNamed_usualSource _).symm.trans fails
        | some s => exact .escape (.pattern checked fits sources shallow fails other)
  · rw [ofEntries_of_misfits fits]
    exact .fault (.fields checked fits)

theorem configures_of_projects {entries : Dict} (project : Projects w entries) :
    Configures w pattern address (outcome (resolve pattern address) w).1 := by
  rw [resolve_of_projects project]
  cases requested : requestOf entries with
  | ok request => exact configures_of_checked (.intro project requested)
  | error f =>
    obtain ⟨v, found, counts, fails⟩ := requestOf_eq_error.1 requested
    exact .escape (.request project found counts fails)

/-- Settings come out in one of the listed ways. -/
theorem configures_resolve (w : World) (pattern address : Option String) :
    Configures w pattern address (outcome (resolve pattern address) w).1 := by
  rcases content_cases w with ⟨missing, short⟩ | long | ⟨bytes, fault, found, fails⟩ | ⟨text, content⟩
  · exact configures_of_projects (.absent missing short)
  · rw [resolve_of_longName long]
    exact .escape (.longName long)
  · rw [resolve_of_undecodable found fails]
    exact .escape (.undecodable found fails)
  · cases reads : Json.readAt .settings text with
    | error fault =>
      rw [resolve_of_unread content reads]
      cases passed : fault.failure? text with
      | some f => exact .escape (.json content reads passed)
      | none =>
        cases fault with
        | malformed flaw offset => exact .fault (.unreadable content reads)
        | _ => cases passed
    | ok v =>
      by_cases object : ∃ entries, v = .dict entries
      · obtain ⟨entries, rfl⟩ := object
        exact configures_of_projects (.object content reads)
      · rw [not_exists] at object
        rw [resolve_of_notObject content reads object]
        exact .fault (.notObject content reads object)

theorem resolve_of_checked {entries request : Dict}
    (checked : Checked w pattern address entries request) :
    (outcome (resolve pattern address) w).1 = ofEntries entries request := by
  obtain ⟨project, requested⟩ := checked
  rw [resolve_of_projects project, requested]
  rfl

/-- Settings come out in exactly these ways. -/
theorem configures_iff {result : Except Failure Settings} :
    (outcome (resolve pattern address) w).1 = result ↔ Configures w pattern address result := by
  refine ⟨fun same => same ▸ configures_resolve w pattern address, fun h => ?_⟩
  cases h with
  | settings checked sources addresses transports accepted =>
    rw [resolve_of_checked checked, ofEntries_of_fits sources addresses transports, accepted]
    rfl
  | fault h =>
    cases h with
    | unreadable content fails => exact resolve_of_unread content fails
    | notObject content reads other => exact resolve_of_notObject content reads other
    | fields checked some => rw [resolve_of_checked checked, ofEntries_of_misfits some]
    | pattern checked fits chosen refused =>
      obtain ⟨source, own, transport, sources, addresses, transports⟩ := misfits_eq_nil_iff.1 fits
      cases sources.symm.trans chosen
      rw [resolve_of_checked checked, ofEntries_of_fits sources addresses transports, refused]
      rfl
  | escape h =>
    cases h with
    | longName found => exact resolve_of_longName found
    | undecodable found fails => exact resolve_of_undecodable found fails
    | json content fails passed =>
      rw [resolve_of_unread content fails, passed]
      rfl
    | request project found counts fails =>
      rw [resolve_of_projects project, requestOf_eq_error.2 ⟨_, found, counts, fails⟩]
      rfl
    | deep checked fits chosen deep =>
      obtain ⟨source, own, transport, sources, addresses, transports⟩ := misfits_eq_nil_iff.1 fits
      cases sources.symm.trans chosen
      rw [resolve_of_checked checked, ofEntries_of_fits sources addresses transports, Pattern.of,
        Pattern.read, if_pos deep]
      rfl
    | @pattern _ _ s fault checked fits chosen shallow fails other =>
      obtain ⟨source, own, transport, sources, addresses, transports⟩ := misfits_eq_nil_iff.1 fits
      cases sources.symm.trans chosen
      rw [resolve_of_checked checked, ofEntries_of_fits sources addresses transports,
        Option.getD_some, Pattern.of, Pattern.read, shallow, fails]
      rfl

/-- A pattern keeps the source that it is read from. -/
theorem source_of_read {s : String} {p : Pattern} (h : Pattern.of (.source s) = .ok p) :
    p.source = s := by
  rw [Pattern.of, Pattern.read] at h
  split at h
  · cases h
  split at h
  · cases h
  · rw [Pattern.ofProgram] at h
    split at h <;> cases h
    rfl

/-- The pattern of settings is the one that its source is read as. -/
theorem of_source_of_configures {t : Settings} (h : Configures w pattern address (.ok t)) :
    Pattern.of (.source t.pattern.source) = .ok t.pattern := by
  cases h with
  | settings _ _ _ _ accepted => exact (source_of_read accepted).symm ▸ accepted

/-- A failure that passes through is none of the library. -/
theorem exitCode_of_escapes {f : Failure} (h : Escapes w pattern address f) :
    f.exitCode? = none := by
  cases h with
  | request _ _ _ fails =>
    refine Option.eq_none_iff_forall_ne_some.2 fun code own => ?_
    -- It has no code, since it would be both of any two.
    have zero : code = 0 := coded_mapping fails code own
    have one : code = 1 := coded_mapping fails code own
    omega
  | @json _ fault _ _ _ passed => cases fault <;> cases passed <;> rfl
  | @pattern _ _ _ fault _ _ _ _ _ other => cases fault <;> first | rfl | exact absurd rfl other
  | _ => rfl

theorem exitCode_of_configures {f : Failure} (h : Configures w pattern address (.error f)) :
    f.exitCode = 1 := by
  cases h with
  | fault => rfl
  | escape h =>
    rw [Failure.exitCode, exitCode_of_escapes h]
    rfl

end Settings

/-- An object with the number 5 as its member is read. -/
theorem Json.readChars_five (name : String) :
    Json.readChars ('\x7b' :: ((Json.writtenText false name).toList ++ [':', ' ', '5', '\x7d'])) =
      .ok (.dict [(.text name, .int 5)]) := by
  obtain ⟨cs, pos, quoted, read⟩ := Json.text_writtenText name [':', ' ', '5', '\x7d'] 1 2
  rw [quoted, Json.readChars]
  show (Json.members (2 * (cs.length + 1 + 1) + 1) 1 ('"' :: cs) [] >>= _) = _
  rw [Json.members, read]
  rfl

/-! ## Command lines -/

namespace Cli

/-- A command fails as its settings fail, and does nothing before. -/
theorem adds_of_unsettled [Platform] {x : Context} {c : Command} {s : Run} {f : Failure}
    (readable : c.Readable) (h : (outcome x.settings s).1 = .error f) :
    RunM.Adds (x.run c) s (.error f) [] := by
  have first := adds_settings h
  cases c with
  | endpoints source => exact first.bind_error _
  | inspect source id => exact first.bind_error _
  | call source id params headers body =>
    obtain ⟨given, inputs⟩ := readable
    have run := x.run_command ⟨source, id, params, headers, body⟩
    rw [inputs] at run
    exact run ▸ first.bind_error _

/-- **Configuration gives settings, reports a fault, or lets a failure through.** The pattern of
settings is accepted. A fault, be it of the project file, of a field or of the pattern, exits with the
general code and shows its wording alone. A failure that is let through has the same code, but is
described as an accident. -/
theorem settings_accounted [Platform] (library : Library) (terminal : Bool)
    (pattern address : Option String) (s : Run) :
    (∀ result, (outcome (Settings.resolve pattern address) s.world).1 = result ↔
      Settings.Configures s.world pattern address result) ∧
    (∀ t, Settings.Configures s.world pattern address (.ok t) →
      Pattern.of (.source t.pattern.source) = .ok t.pattern) ∧
    ∀ args shared c f, Line.read args = .command shared c → c.Readable →
      shared.pattern = pattern → shared.address = address →
      Settings.Configures s.world pattern address (.error f) →
      let report := (Context.of library terminal shared s).report
      RunM.Adds (runLine library terminal args) s (.ok 1) (account report f) ∧
      (¬Settings.Escapes s.world pattern address f →
        account report f = (report.error f.message).map .showing) ∧
      (Settings.Escapes s.world pattern address f → account report f =
        .crash f :: (report.error ("Unexpected error: " ++ f.message)).map .showing) := by
  refine ⟨fun result => Settings.configures_iff, fun t => Settings.of_source_of_configures, ?_⟩
  rintro args shared c f line readable rfl rfl fails report
  refine ⟨?_, fun contained => ?_, fun escapes => ?_⟩
  · have settings : (outcome (Context.of library terminal shared s).settings s).1 = .error f := by
      rw [Context.settings, RunM.outcome_ofEval]
      exact Settings.configures_iff.2 fails
    rw [← Settings.exitCode_of_configures fails]
    exact adds_runLine line (adds_of_unsettled readable settings)
  · cases fails with
    | fault => rfl
    | escape h => exact absurd h contained
  · rw [account, Settings.exitCode_of_escapes escapes]

/-- A run in a directory with a project file. -/
def projecting (bytes : List UInt8) : Run := among [(["restez.json"], .file bytes)]

theorem find_project (bytes : List UInt8) :
    (projecting bytes).world.find (projecting bytes).world.project = .entry (.file bytes) := rfl

/-- A project file that is no object is reported by its wording alone. -/
theorem settings_accounted_list :
    let _ : Platform := .usual
    RunM.Adds (runLine [] false ["endpoints", "s.json"]) (projecting [91, 93]) (.ok 1)
      [.showing (.styledErr (.text ("[bold red]Error:[/bold red] " ++
        "Invalid project config at /restez.json: expected a JSON object")))] := by
  intro _
  have decodes : Utf8.decode [91, 93] = .ok "[]" := by decide +kernel
  have reads : Json.readAt .settings (String.ofList (Eval.lineFeeds "[]".toList)) =
      .ok (.list []) := by
    rw [Json.readAt_of_shallow rfl]
    show Json.read "[]" = _
    rw [Json.read]
    show Json.readChars ['[', ']'] = _
    rw [Json.readChars]
    rfl
  have refused : Settings.Misconfigured (projecting [91, 93]).world none none
      (.projectNotObject (projecting [91, 93]).world.project.toString) :=
    .notObject (.file (find_project _) decodes) reads (by rintro _ ⟨⟩)
  have contained : ¬Settings.Escapes (projecting [91, 93]).world none none
      (.config (.projectNotObject (projecting [91, 93]).world.project.toString)) :=
    fun h => Option.some_ne_none _ (Settings.exitCode_of_escapes h)
  obtain ⟨adds, shows, -⟩ := (settings_accounted [] false none none (projecting [91, 93])).2.2 _ _ _ _
    read_listing trivial rfl rfl (.fault refused)
  rw [shows contained] at adds
  exact adds

/-- A project file that begins with the byte 255, or whose member for requests is the number 5, is
not refused by a fault of the configuration. The failure to decode it, or to read the number as a
mapping, escapes, and a command line describes it as an accident. -/
theorem settings_escape :
    let _ : Platform := .usual
    (∃ fault, (outcome (Settings.resolve none none) (projecting [255]).world).1 =
      .error (.undecodable fault)) ∧
    let s := projecting (Utf8.encode "\x7b\"request\": 5\x7d")
    let accident := Failure.wrongType "'int' object is not iterable"
    (outcome (Settings.resolve none none) s.world).1 = .error accident ∧
    ∃ shown, RunM.Adds (runLine [] false ["endpoints", "s.json"]) s (.ok 1)
      [.crash accident, .showing shown] := by
  intro _
  constructor
  · have garbled : Utf8.decode [255] = .error ⟨.invalidStart, 0, 1, 255⟩ := by decide +kernel
    exact ⟨_, Settings.resolve_of_undecodable (find_project _) garbled⟩
  · intro s accident
    have decodes : Utf8.decode (Utf8.encode "\x7b\"request\": 5\x7d") =
        .ok "\x7b\"request\": 5\x7d" := by decide +kernel
    have reads : Json.readAt .settings
        (String.ofList (Eval.lineFeeds "\x7b\"request\": 5\x7d".toList)) =
        .ok (.dict [(.text "request", .int 5)]) := by
      rw [Json.readAt_of_shallow rfl]
      show Json.read "\x7b\"request\": 5\x7d" = _
      rw [Json.read]
      exact Json.readChars_five "request"
    have five : Dict.getText? [(.text "request", .int 5)] "request" = some (.int 5) := by simp
    have escapes : Settings.Escapes s.world none none accident :=
      .request (.object (.file (find_project _) decodes) reads) five rfl rfl
    have fails : (outcome (Settings.resolve none none) s.world).1 = .error accident :=
      Settings.configures_iff.2 (.escape escapes)
    have settings : (outcome (Context.of [] false bare s).settings s).1 = .error accident := by
      rw [Context.settings, RunM.outcome_ofEval]
      exact fails
    have adds : RunM.Adds (runLine [] false ["endpoints", "s.json"]) s _ _ :=
      adds_runLine read_listing (adds_of_unsettled trivial settings)
    exact ⟨fails, _, adds⟩

end Cli

end RouteSchema
