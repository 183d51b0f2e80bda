import RouteSchema.Proofs.Configuring

/-!
# Which source of a setting counts

A setting comes from the command line, from a variable, from the project, or from its default, the
former before the latter. A text on the command line counts even if it is empty, a variable only if it
is not. What a source says that counts less is not looked at, so that it may be anything.

* `Prevails` is what the sources of a setting come to, and `Takes` is how a field reads it.
* `Layered` says which settings there are for a project whose member for requests is a mapping.
* `Agreement` says that two projects in two worlds differ only where something counts more.
* `settings_layered`: settings are layered, and what is overridden has no influence.
-/

namespace RouteSchema

open Stateful

namespace Settings

/-- The mapping for requests of a project: its member, and no entries without one. -/
inductive Requests (entries : Dict) : Dict → Prop
  | absent (missing : entries.getText? "request" = none) : Requests entries []
  | null (empty : entries.getText? "request" = some .null) : Requests entries []
  | mapping {request : Dict} (found : entries.getText? "request" = some (.dict request)) :
      Requests entries request

/-- What prevails of a text on the command line, the text of a variable and a member of the project. -/
inductive Prevails (said set : Option String) (own : Option Value) : Option Value → Prop
  | commandLine {s : String} (given : said = some s) : Prevails said set own (some (.text s))
  | environ {s : String} (unsaid : said = none) (given : set = some s) (full : s ≠ "") :
      Prevails said set own (some (.text s))
  | project {v : Value} (unsaid : said = none) (unset : ∀ s, set = some s → s = "")
      (given : own = some v) : Prevails said set own (some v)
  | default (unsaid : said = none) (unset : ∀ s, set = some s → s = "") (missing : own = none) :
      Prevails said set own none

/-- What a field makes of a value, or of none. -/
inductive Takes {α : Type} (convert : Value → Except String α) (fallback : α) :
    Option Value → α → Prop
  | given {v : Value} {a : α} (fits : convert v = .ok a) : Takes convert fallback (some v) a
  | fallback : Takes convert fallback none fallback

/-- The settings of a project in a world, under a command line. -/
structure Layered [Platform] (w : World) (pattern address : Option String) (entries request : Dict)
    (t : Settings) : Prop where
  source : ∃ v, Prevails pattern (Assoc.get? w.variables patternVariable)
    (entries.getText? "parameter_pattern") v ∧ Takes textField Pattern.usualSource v t.pattern.source
  accepted : Pattern.of (.source t.pattern.source) = .ok t.pattern
  address : ∃ v, Prevails address (Assoc.get? w.variables addressVariable)
    (entries.getText? "base_url") v ∧ Takes addressField none v t.address
  timeout : ∃ v, Prevails none (Assoc.get? w.variables timeoutVariable)
    (request.getText? "timeout") v ∧ Takes (fun v => (Field.number v).map some) none v
      t.transport.timeout
  verify : Takes Field.truth true (request.getText? "verify_ssl") t.transport.verify
  retries : Takes Field.count 3 (request.getText? "max_retries") t.transport.retries

/-- Two variables and two members agree unless something counts more. -/
structure Agrees (said set set' : Option String) (own own' : Option Value) : Prop where
  environ : said = none → set = set'
  project : said = none → (∀ s, set = some s → s = "") → own = own'

/-- Two projects in two worlds agree on all settings unless something counts more. -/
structure Agreement (pattern address : Option String) (w w' : World)
    (entries entries' request request' : Dict) : Prop where
  pattern : Agrees pattern (Assoc.get? w.variables patternVariable)
    (Assoc.get? w'.variables patternVariable) (entries.getText? "parameter_pattern")
    (entries'.getText? "parameter_pattern")
  address : Agrees address (Assoc.get? w.variables addressVariable)
    (Assoc.get? w'.variables addressVariable) (entries.getText? "base_url")
    (entries'.getText? "base_url")
  timeout : Agrees none (Assoc.get? w.variables timeoutVariable)
    (Assoc.get? w'.variables timeoutVariable) (request.getText? "timeout")
    (request'.getText? "timeout")
  verify : request.getText? "verify_ssl" = request'.getText? "verify_ssl"
  retries : request.getText? "max_retries" = request'.getText? "max_retries"

/-! ## Sources -/

section

variable {said set set' : Option String} {own own' v v' : Option Value}

/-- What prevails is a text on the command line, or else that of a variable that is not empty, or
else the member. -/
theorem Prevails.eq (h : Prevails said set own v) :
    v = (said.map .text).or (((set.filter (· != "")).map .text).or own) := by
  have unset_none (unset : ∀ s, set = some s → s = "") : set.filter (· != "") = none := by
    simpa [Option.filter_eq_none_iff] using unset
  cases h with
  | commandLine given => rw [given, Option.map_some, Option.some_or]
  | environ unsaid given full =>
    have kept : set.filter (· != "") = set := by simpa [given] using full
    rw [unsaid, kept, given]
    rfl
  | project unsaid unset given => rw [unsaid, unset_none unset, given]; rfl
  | default unsaid unset missing => rw [unsaid, unset_none unset, missing]; rfl

/-- One thing prevails. -/
theorem Prevails.unique (h : Prevails said set own v) (h' : Prevails said set own v') : v = v' :=
  h.eq.trans h'.eq.symm

/-- What prevails does so in the place of everything that agrees unless something counts more. -/
theorem Prevails.congr (agrees : Agrees said set set' own own') (h : Prevails said set own v) :
    Prevails said set' own' v := by
  cases h with
  | commandLine given => exact .commandLine given
  | environ unsaid given full => exact .environ unsaid (agrees.environ unsaid ▸ given) full
  | project unsaid unset given =>
    exact .project unsaid (agrees.environ unsaid ▸ unset) (agrees.project unsaid unset ▸ given)
  | default unsaid unset missing =>
    exact .default unsaid (agrees.environ unsaid ▸ unset) (agrees.project unsaid unset ▸ missing)

end

/-! ## Members -/

theorem getText?_withMember_self (entries : Dict) (key : String) (v : Option Value) :
    (withMember entries key v).getText? key = v.or (entries.getText? key) := by
  cases v with
  | none => rfl
  | some v => exact (Value.exact_text key).get?_insert_self entries v

theorem getText?_withMember_other {key other : String} (unlike : other ≠ key) (entries : Dict)
    (v : Option Value) : (withMember entries other v).getText? key = entries.getText? key := by
  cases v with
  | none => rfl
  | some v =>
    exact (Value.exact_text key).get?_insert_other (mt Value.text.inj unlike) entries v

/-- A text on the command line, over a variable, over a member. -/
theorem prevails_or (w : World) (name : String) (said : Option String) (own : Option Value) :
    Prevails said (Assoc.get? w.variables name) own
      ((said.map .text).or ((w.given? name).or own)) := by
  cases said with
  | some s => exact .commandLine rfl
  | none =>
    rw [World.given?]
    cases set : Assoc.get? w.variables name with
    | none =>
      have unset : ∀ s, none = some s → s = "" := by rintro _ ⟨⟩
      cases own with
      | none => exact .default rfl unset rfl
      | some v => exact .project rfl unset rfl
    | some s =>
      by_cases empty : s = ""
      · subst empty
        have unset : ∀ s, some "" = some s → s = "" := by
          rintro _ ⟨⟩
          rfl
        cases own with
        | none => exact .default rfl unset rfl
        | some v => exact .project rfl unset rfl
      · have full : (s == "") = false := by simpa using empty
        dsimp only
        rw [full]
        exact .environ rfl rfl empty

variable {w w' : World} {pattern address : Option String}
  {entries entries' request request' : Dict}

theorem prevails_pattern : Prevails pattern (Assoc.get? w.variables patternVariable)
    (entries.getText? "parameter_pattern")
    ((merged w pattern address entries).getText? "parameter_pattern") := by
  have laid : (merged w pattern address entries).getText? "parameter_pattern" =
      (pattern.map .text).or
        ((w.given? patternVariable).or (entries.getText? "parameter_pattern")) := by
    rw [merged, getText?_withMember_other (by decide), getText?_withMember_self,
      getText?_withMember_other (by decide), getText?_withMember_self]
  exact laid ▸ prevails_or w patternVariable pattern _

theorem prevails_address : Prevails address (Assoc.get? w.variables addressVariable)
    (entries.getText? "base_url")
    ((merged w pattern address entries).getText? "base_url") := by
  have laid : (merged w pattern address entries).getText? "base_url" =
      (address.map .text).or ((w.given? addressVariable).or (entries.getText? "base_url")) := by
    rw [merged, getText?_withMember_self, getText?_withMember_other (by decide),
      getText?_withMember_self, getText?_withMember_other (by decide)]
  exact laid ▸ prevails_or w addressVariable address _

theorem prevails_timeout : Prevails none (Assoc.get? w.variables timeoutVariable)
    (request.getText? "timeout") ((requests w request).getText? "timeout") := by
  have laid : (requests w request).getText? "timeout" =
      (w.given? timeoutVariable).or (request.getText? "timeout") := getText?_withMember_self _ _ _
  exact laid ▸ prevails_or w timeoutVariable none _

theorem getText?_requests {key : String} (other : "timeout" ≠ key) :
    (requests w request).getText? key = request.getText? key :=
  getText?_withMember_other other _ _

theorem member_eq_ok_iff {α : Type} {key : String} {fallback a : α}
    {convert : Value → Except String α} :
    member entries key fallback convert = .ok a ↔ Takes convert fallback (entries.getText? key) a := by
  unfold member
  cases entries.getText? key with
  | none =>
    constructor
    · rintro ⟨⟩
      exact .fallback
    · rintro ⟨⟩
      rfl
  | some v =>
    constructor
    · exact .given
    · rintro (fits | -)
      exact fits

/-! ## Settings -/

theorem requestOf_of_requests (h : Requests entries request) : requestOf entries = .ok request := by
  unfold requestOf
  cases h with
  | absent missing => rw [missing]
  | null empty => rw [empty]; rfl
  | mapping found =>
    rw [found]
    cases request with
    | nil => rfl
    | cons => rfl

theorem transportOf_eq_ok_iff {location : List String} {t : Transport} :
    transportOf location entries = .ok t ↔
      member entries "timeout" none (fun v => (Field.number v).map some) = .ok t.timeout ∧
      member entries "verify_ssl" true Field.truth = .ok t.verify ∧
      member entries "max_retries" 3 Field.count = .ok t.retries := by
  unfold transportOf
  dsimp only
  constructor
  · intro h
    split at h
    · cases h
      exact ⟨‹_›, ‹_›, ‹_›⟩
    · cases h
  · rintro ⟨timeout, verify, retries⟩
    rw [timeout, verify, retries]

section

variable [Platform]

/-- Checked members make settings exactly if every field fits and the pattern is accepted. -/
theorem ofEntries_eq_ok_iff {t : Settings} : ofEntries entries request = .ok t ↔
    ∃ source, sourceOf entries = .ok source ∧ addressOf entries = .ok t.address ∧
      transportOf ["request"] request = .ok t.transport ∧
      Pattern.of (.source (source.getD Pattern.usualSource)) = .ok t.pattern := by
  constructor
  · intro made
    by_cases fits : misfits entries request = []
    · obtain ⟨source, own, transport, sources, addresses, transports⟩ := misfits_eq_nil_iff.1 fits
      rw [ofEntries_of_fits sources addresses transports] at made
      obtain ⟨p, accepted, rfl⟩ := Outcome.map_eq_ok.1 made
      exact ⟨source, sources, addresses, transports, accepted⟩
    · rw [ofEntries_of_misfits fits] at made
      cases made
  · rintro ⟨source, sources, addresses, transports, accepted⟩
    rw [ofEntries_of_fits sources addresses transports, accepted]
    rfl

/-- The source that is chosen for the pattern, and what it is read as. -/
theorem sourceOf_eq_ok_iff {p : Pattern} :
    (∃ source, sourceOf entries = .ok source ∧
        Pattern.of (.source (source.getD Pattern.usualSource)) = .ok p) ↔
      Takes textField Pattern.usualSource (entries.getText? "parameter_pattern") p.source ∧
        Pattern.of (.source p.source) = .ok p := by
  unfold sourceOf
  simp only [member_eq_ok_iff]
  constructor
  · rintro ⟨source, taken, accepted⟩
    have named := source_of_read accepted
    rw [named]
    refine ⟨?_, accepted⟩
    generalize entries.getText? "parameter_pattern" = v at taken ⊢
    cases taken with
    | given fits =>
      obtain ⟨s, text, rfl⟩ := Outcome.map_eq_ok.1 fits
      exact .given text
    | fallback => exact .fallback
  · rintro ⟨taken, accepted⟩
    generalize p.source = s at taken accepted
    generalize entries.getText? "parameter_pattern" = v at taken ⊢
    cases taken with
    | given text => exact ⟨some s, .given (Outcome.map_eq_ok.2 ⟨s, text, rfl⟩), accepted⟩
    | fallback => exact ⟨none, .fallback, accepted⟩

/-- What members are checked as depends on the values of the fields alone. -/
theorem ofEntries_congr
    (pattern : entries.getText? "parameter_pattern" = entries'.getText? "parameter_pattern")
    (address : entries.getText? "base_url" = entries'.getText? "base_url")
    (timeout : request.getText? "timeout" = request'.getText? "timeout")
    (verify : request.getText? "verify_ssl" = request'.getText? "verify_ssl")
    (retries : request.getText? "max_retries" = request'.getText? "max_retries") :
    ofEntries entries request = ofEntries entries' request' := by
  simp only [ofEntries, transportOf, member, pattern, address, timeout, verify, retries]

theorem resolve_of_requests (project : Projects w entries) (requested : Requests entries request) :
    (outcome (resolve pattern address) w).1 =
      ofEntries (merged w pattern address entries) (requests w request) := by
  rw [resolve_of_projects project, requestOf_of_requests requested]
  rfl

theorem layered_iff {t : Settings} :
    ofEntries (merged w pattern address entries) (requests w request) = .ok t ↔
      Layered w pattern address entries request t := by
  rw [ofEntries_eq_ok_iff]
  constructor
  · rintro ⟨source, sources, addresses, transports, accepted⟩
    obtain ⟨taken, accepted⟩ := sourceOf_eq_ok_iff.1 ⟨source, sources, accepted⟩
    obtain ⟨timeout, verify, retries⟩ := transportOf_eq_ok_iff.1 transports
    rw [member_eq_ok_iff] at timeout verify retries
    rw [getText?_requests (by decide)] at verify retries
    exact
      { source := ⟨_, prevails_pattern, taken⟩
        accepted := accepted
        address := ⟨_, prevails_address, member_eq_ok_iff.1 addresses⟩
        timeout := ⟨_, prevails_timeout, timeout⟩
        verify := verify
        retries := retries }
  · rintro ⟨⟨_, chosen, taken⟩, accepted, ⟨_, placed, address⟩, ⟨_, timed, timeout⟩, verify, retries⟩
    rw [chosen.unique prevails_pattern] at taken
    rw [placed.unique prevails_address] at address
    rw [timed.unique prevails_timeout] at timeout
    rw [← getText?_requests (w := w) (by decide)] at verify retries
    obtain ⟨source, sources, accepted⟩ := sourceOf_eq_ok_iff.2 ⟨taken, accepted⟩
    exact ⟨source, sources, member_eq_ok_iff.2 address, transportOf_eq_ok_iff.2
      ⟨member_eq_ok_iff.2 timeout, member_eq_ok_iff.2 verify, member_eq_ok_iff.2 retries⟩, accepted⟩

/-- A text is taken as it is. -/
theorem textField_text {s s' : String} (h : textField (.text s) = .ok s') : s' = s := by
  obtain ⟨_, ⟨⟩, h⟩ := Outcome.bind_eq_ok.1 h
  split at h <;> cases h
  rfl

/-- A text that prevails is taken as it is. -/
theorem Layered.texts {t : Settings} (h : Layered w pattern address entries request t) (s : String) :
    (Prevails pattern (Assoc.get? w.variables patternVariable)
      (entries.getText? "parameter_pattern") (some (.text s)) → t.pattern.source = s) ∧
    (Prevails address (Assoc.get? w.variables addressVariable) (entries.getText? "base_url")
      (some (.text s)) → t.address = some s) := by
  constructor
  · intro text
    obtain ⟨v, prevails, taken⟩ := h.source
    obtain rfl := prevails.unique text
    generalize t.pattern.source = source at taken
    cases taken with
    | given fits => exact textField_text fits
  · intro text
    obtain ⟨v, prevails, taken⟩ := h.address
    obtain rfl := prevails.unique text
    generalize t.address = address at taken
    cases taken with
    | given fits =>
      change (textField (.text s)).map some = _ at fits
      obtain ⟨s', read, rfl⟩ := Outcome.map_eq_ok.1 fits
      rw [textField_text read]

/-- **The settings of a project, layer by layer.** For a project whose member for requests is missing,
null or a mapping, settings take each field from the source that prevails. What the command line says is
taken as it is. Another project in another world that differs only where something counts more comes to
the same, be it settings or a failure. -/
theorem settings_layered (project : Projects w entries) (requested : Requests entries request)
    (pattern address : Option String) :
    (∀ t, (outcome (resolve pattern address) w).1 = .ok t ↔
      Layered w pattern address entries request t) ∧
    (∀ t, (outcome (resolve pattern address) w).1 = .ok t →
      (∀ s, pattern = some s → t.pattern.source = s) ∧
      ∀ s, address = some s → t.address = some s) ∧
    ∀ w' entries' request', Projects w' entries' → Requests entries' request' →
      Agreement pattern address w w' entries entries' request request' →
      (outcome (resolve pattern address) w').1 = (outcome (resolve pattern address) w).1 := by
  rw [resolve_of_requests project requested]
  refine ⟨fun t => layered_iff, fun t made => ?_, ?_⟩
  · have texts := (layered_iff.1 made).texts
    exact ⟨fun s said => (texts s).1 (.commandLine said), fun s said => (texts s).2 (.commandLine said)⟩
  · intro w' entries' request' project' requested' agree
    rw [resolve_of_requests project' requested']
    refine ofEntries_congr ?_ ?_ ?_ ?_ ?_
    · exact prevails_pattern.unique (prevails_pattern.congr agree.pattern)
    · exact prevails_address.unique (prevails_address.congr agree.address)
    · exact prevails_timeout.unique (prevails_timeout.congr agree.timeout)
    · rw [getText?_requests (by decide), getText?_requests (by decide), agree.verify]
    · rw [getText?_requests (by decide), getText?_requests (by decide), agree.retries]

end

/-- The text of a project with a number in the place of its address. -/
def numbered : String := "\x7b\"base_url\": 5\x7d"

theorem projects_numbered [Platform]
    (shallow : Platform.exhausts (.readJson .settings numbered) = false) :
    Projects (Cli.projecting (Utf8.encode numbered)).world [(.text "base_url", .int 5)] := by
  have decodes : Utf8.decode (Utf8.encode numbered) = .ok numbered := by decide +kernel
  refine .object (.file (Cli.find_project _) decodes) ?_
  refine (Json.readAt_of_shallow shallow).trans ?_
  rw [Json.read]
  exact Json.readChars_five "base_url"

/-- An empty address on the command line: the number in the project has no influence, although it is
refused where nothing is said. -/
theorem settings_layered_numbered :
    let _ : Platform := .usual
    let w := (Cli.projecting (Utf8.encode numbered)).world
    let t : Settings := ⟨.usual, some "", {}⟩
    (outcome (resolve none (some "")) w).1 = .ok t ∧
      (outcome (resolve none (some "")) (Cli.among []).world).1 = .ok t ∧
      ∀ t, (outcome (resolve none none) w).1 ≠ .ok t := by
  intro _ w t
  have projects : Projects w [(.text "base_url", .int 5)] := projects_numbered rfl
  have requested : Requests [(.text "base_url", .int 5)] [] := .absent (by simp)
  have requested' : Requests [] [] := .absent rfl
  have project' : Projects (Cli.among []).world [] := by
    refine .absent (fun bytes => ?_) ?_ <;> rintro ⟨⟩
  obtain ⟨layered, -, same⟩ := settings_layered projects requested none (some "")
  have settled : Layered w none (some "") [(.text "base_url", .int 5)] [] t :=
    { source := ⟨_, .default rfl nofun (by simp), .fallback⟩
      accepted := Pattern.of_usualSource rfl
      address := ⟨_, .commandLine rfl, .given rfl⟩
      timeout := ⟨_, .default rfl nofun rfl, .fallback⟩
      verify := .fallback
      retries := .fallback }
  have agree : Agreement none (some "") w (Cli.among []).world [(.text "base_url", .int 5)] [] [] [] :=
    { pattern := ⟨fun _ => rfl, fun _ _ => by simp⟩
      address := ⟨nofun, nofun⟩
      timeout := ⟨fun _ => rfl, fun _ _ => rfl⟩
      verify := rfl
      retries := rfl }
  have made := (layered t).2 settled
  refine ⟨made, (same _ _ _ project' requested' agree).trans made, fun t' made' => ?_⟩
  have five : Dict.getText? [(.text "base_url", .int 5)] "base_url" = some (.int 5) := by simp
  obtain ⟨v, prevails, taken⟩ :=
    ((settings_layered projects requested none none).1 t' |>.1 made').address
  obtain rfl := prevails.unique (.project rfl nofun five)
  obtain ⟨⟨⟩⟩ := taken

end Settings

end RouteSchema
