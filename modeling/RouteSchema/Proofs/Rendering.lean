import RouteSchema.Platform.Usual
import RouteSchema.Proofs.Making
import RouteSchema.Proofs.Wording
import RouteSchema.Report

/-!
# Rendering data

Data of any shape is shown in JSON, in plain and in styled form. A value that JSON does not know is
written as a text there, but a key of a dictionary that is no text, number, truth value or null is
not, and neither is an integer of too many digits, wherever it stands. What can be shown is shown
unless the stack does not suffice for it or the output refuses it.

* `Writable` tells the values with a JSON text: `exists_write_iff`.
* `Showable` tells the data that can be shown in a form, `Fits` that the platform shows it:
  `exists_response_iff`.
* `Named.showable`: what has been read from a JSON text can be shown in every form.
-/

namespace RouteSchema

open Json

/-- A key of a dictionary that becomes the name of a member. -/
inductive Nameable : Value → Prop
  | text (s : String) : Nameable (.text s)
  | null : Nameable .null
  | bool (b : Bool) : Nameable (.bool b)
  | int {i : Int} (few : Value.isShort i = true) : Nameable (.int i)
  | float (x : Binary64) : Nameable (.float x)

/-- A value that JSON does not know. -/
def Foreign : Value → Prop
  | .bytes _ | .date _ | .moment _ | .set _ | .handle _ => True
  | _ => False

/-- A value that is written as JSON under a layout: a lenient one has texts for what JSON does not
know. In lists, tuples and dictionaries every part must be such a value and every key must be a
name. -/
inductive Writable (l : Layout) : Value → Prop
  | null : Writable l .null
  | bool (b : Bool) : Writable l (.bool b)
  | int {i : Int} (few : Value.isShort i = true) : Writable l (.int i)
  | float (x : Binary64) : Writable l (.float x)
  | text (s : String) : Writable l (.text s)
  | foreign {v : Value} (lenient : l.lenient = true) (unknown : Foreign v)
      (printable : v.printable = true) : Writable l v
  | list {items : List Value} (h : ∀ v ∈ items, Writable l v) : Writable l (.list items)
  | tuple {items : List Value} (h : ∀ v ∈ items, Writable l v) : Writable l (.tuple items)
  | dict {entries : Dict} (names : ∀ e ∈ entries, Nameable e.1)
      (values : ∀ e ∈ entries, Writable l e.2) : Writable l (.dict entries)

theorem writable_int_iff {l : Layout} {i : Int} :
    Writable l (.int i) ↔ Value.isShort i = true := by
  constructor
  · intro h
    cases h with
    | int few => exact few
    | foreign _ unknown => exact unknown.elim
  · exact .int

theorem writable_dict_iff {l : Layout} {entries : Dict} :
    Writable l (.dict entries) ↔ ∀ e ∈ entries, Nameable e.1 ∧ Writable l e.2 := by
  constructor
  · intro h
    cases h with
    | foreign _ unknown => exact unknown.elim
    | dict names values => exact fun e he => ⟨names e he, values e he⟩
  · exact fun h => .dict (fun e he => (h e he).1) fun e he => (h e he).2

/-! ## Writing -/

theorem exists_memberName_iff {key : Value} :
    (∃ name, memberName key = .ok name) ↔ Nameable key := by
  constructor
  · rintro ⟨name, h⟩
    cases key with
    | text s => exact .text s
    | null => exact .null
    | bool b => exact .bool b
    | float x => exact .float x
    | int i =>
      rw [memberName, writtenInt] at h
      split at h
      · exact .int ‹_›
      · cases h
    | _ => cases h
  · rintro (_ | _ | _ | few | _)
    case int => exact ⟨_, by rw [memberName, writtenInt_eq few]⟩
    all_goals exact ⟨_, rfl⟩

section

variable {l : Layout}

theorem exists_writeItems {items : List Value}
    (h : ∀ v ∈ items, ∀ depth, ∃ s, writeAt l depth v = .ok s) (depth : Nat) :
    ∃ ss, writeItems l depth items = .ok ss := by
  induction items with
  | nil => exact ⟨[], rfl⟩
  | cons v items ih =>
    obtain ⟨s, hs⟩ := h v List.mem_cons_self depth
    obtain ⟨ss, hss⟩ := ih fun v hv => h v (List.mem_cons_of_mem _ hv)
    rw [writeItems]
    exact ⟨s :: ss, Outcome.bind_eq_ok.2 ⟨s, hs, Outcome.bind_eq_ok.2 ⟨ss, hss, rfl⟩⟩⟩

theorem exists_writeMembers {entries : Dict}
    (names : ∀ e ∈ entries, ∃ name, memberName e.1 = .ok name)
    (h : ∀ e ∈ entries, ∀ depth, ∃ s, writeAt l depth e.2 = .ok s) (depth : Nat) :
    ∃ ss, writeMembers l depth entries = .ok ss := by
  induction entries with
  | nil => exact ⟨[], rfl⟩
  | cons e entries ih =>
    obtain ⟨name, hname⟩ := names e List.mem_cons_self
    obtain ⟨s, hs⟩ := h e List.mem_cons_self depth
    obtain ⟨ss, hss⟩ := ih (fun e he => names e (List.mem_cons_of_mem _ he))
      fun e he => h e (List.mem_cons_of_mem _ he)
    rw [writeMembers]
    exact ⟨_, Outcome.bind_eq_ok.2 ⟨name, hname, Outcome.bind_eq_ok.2 ⟨s, hs,
      Outcome.bind_eq_ok.2 ⟨ss, hss, rfl⟩⟩⟩⟩

theorem writeAt_foreign {v : Value} (unknown : Foreign v) (depth : Nat) :
    writeAt l depth v = l.unknown v := by
  cases v <;> first | rfl | cases unknown

theorem Writable.exists_writeAt {v : Value} (h : Writable l v) :
    ∀ depth, ∃ s, writeAt l depth v = .ok s := by
  induction h with
  | null | bool | float | text => exact fun _ => ⟨_, rfl⟩
  | int few => exact fun _ => ⟨_, by rw [writeAt, writtenInt_eq few]⟩
  | foreign lenient unknown printable =>
    intro depth
    exact ⟨_, by rw [writeAt_foreign unknown, Layout.unknown, lenient, if_neg (by decide),
      if_pos printable]⟩
  | list _ ih | tuple _ ih =>
    intro depth
    obtain ⟨ss, hss⟩ := exists_writeItems ih (depth + 1)
    exact ⟨_, by rw [writeAt, hss]; rfl⟩
  | dict names _ ih =>
    intro depth
    obtain ⟨ss, hss⟩ := exists_writeMembers
      (fun e he => exists_memberName_iff.2 (names e he)) ih (depth + 1)
    exact ⟨_, by rw [writeAt, hss]; rfl⟩

theorem writable_of_foreign {v : Value} {depth : Nat} {s : String}
    (h : writeAt l depth v = .ok s) (unknown : Foreign v) : Writable l v := by
  rw [writeAt_foreign unknown, Layout.unknown] at h
  cases lenient : l.lenient with
  | false =>
    rw [lenient] at h
    cases h
  | true =>
    rw [lenient, if_neg (by decide)] at h
    split at h
    · exact .foreign lenient unknown ‹_›
    · cases h

mutual

theorem writable_of_writeAt : ∀ {v : Value} {depth : Nat} {s : String},
    writeAt l depth v = .ok s → Writable l v
  | .null, _, _, _ => .null
  | .bool b, _, _, _ => .bool b
  | .float x, _, _, _ => .float x
  | .text s, _, _, _ => .text s
  | .int i, _, _, h => by
    rw [writeAt, writtenInt] at h
    split at h
    · exact .int ‹_›
    · cases h
  | .list items, _, _, h => by
    obtain ⟨ss, written, -⟩ := Outcome.map_eq_ok.1 h
    exact .list (writable_of_writeItems written)
  | .tuple items, _, _, h => by
    obtain ⟨ss, written, -⟩ := Outcome.map_eq_ok.1 h
    exact .tuple (writable_of_writeItems written)
  | .dict entries, _, _, h => by
    obtain ⟨ss, written, -⟩ := Outcome.map_eq_ok.1 h
    have members := writable_of_writeMembers written
    exact .dict (fun e he => (members e he).1) fun e he => (members e he).2
  | .bytes _, _, _, h | .date _, _, _, h | .moment _, _, _, h | .set _, _, _, h
  | .handle _, _, _, h => writable_of_foreign h trivial

theorem writable_of_writeItems : ∀ {items : List Value} {depth : Nat} {ss : List String},
    writeItems l depth items = .ok ss → ∀ v ∈ items, Writable l v
  | [], _, _, _ => List.forall_mem_nil _
  | v :: items, _, _, h => by
    rw [writeItems] at h
    obtain ⟨s, first, h⟩ := Outcome.bind_eq_ok.1 h
    obtain ⟨rest, others, -⟩ := Outcome.bind_eq_ok.1 h
    exact List.forall_mem_cons.2 ⟨writable_of_writeAt first, writable_of_writeItems others⟩

theorem writable_of_writeMembers : ∀ {entries : Dict} {depth : Nat} {ss : List String},
    writeMembers l depth entries = .ok ss → ∀ e ∈ entries, Nameable e.1 ∧ Writable l e.2
  | [], _, _, _ => List.forall_mem_nil _
  | (k, v) :: entries, _, _, h => by
    rw [writeMembers] at h
    obtain ⟨name, named, h⟩ := Outcome.bind_eq_ok.1 h
    obtain ⟨s, first, h⟩ := Outcome.bind_eq_ok.1 h
    obtain ⟨rest, others, -⟩ := Outcome.bind_eq_ok.1 h
    exact List.forall_mem_cons.2 ⟨⟨exists_memberName_iff.1 ⟨name, named⟩,
      writable_of_writeAt first⟩, writable_of_writeMembers others⟩

end

/-- **Exactly the writable values are written.** -/
theorem exists_write_iff {v : Value} : (∃ text, write l v = .ok text) ↔ Writable l v :=
  ⟨fun ⟨_, h⟩ => writable_of_writeAt h, fun h => h.exists_writeAt 0⟩

/-- What a reader makes is written under every layout. -/
theorem Json.Named.writable (l : Layout) {v : Value} (h : Named v) : Writable l v := by
  induction h with
  | null => exact .null
  | bool b => exact .bool b
  | int few => exact .int few
  | float x => exact .float x
  | text s => exact .text s
  | list _ ih => exact .list ih
  | dict names _ ih =>
    refine .dict (fun e he => ?_) ih
    obtain ⟨name, key⟩ := names e he
    exact key ▸ .text name

end

theorem Json.Named.printable {v : Value} (h : Named v) : v.printable = true := by
  induction h with
  | null | bool | float | text => rfl
  | int few => exact few
  | list _ ih => exact Value.allPrintable_iff.2 ih
  | dict names _ ih =>
    refine Value.entriesPrintable_iff.2 fun e he => ⟨?_, ih e he⟩
    obtain ⟨name, key⟩ := names e he
    rw [key]
    rfl

/-! ## What can be shown -/

/-- The values whose texts make up an item of a list as a plain line. -/
def itemParts : Value → List Value
  | .dict entries => Assoc.values entries
  | item => [item]

/-- The values whose texts make up the plain lines of data. -/
def lineParts : Value → List Value
  | .dict entries => entries.flatMap fun e => [e.1, e.2]
  | .list items => items.flatMap itemParts
  | v => [v]

/-- A text that is a JSON text or none. What is neither has a number of too many digits. -/
def Readable (s : String) : Prop := ∀ fault, Json.read s = .error fault → fault.failure? s = none

/-- Data that can be shown in a form. Beside plain form, a text counts as the JSON value it writes,
and it can be shown unless that has a number of too many digits. -/
def Showable (form : DataForm) (data : Value) : Prop :=
  match form, data with
  | .plain, v => ∀ part ∈ lineParts v, part.printable = true
  | .json, .text s | .styled, .text s => Readable s
  | .json, v => Writable .indented v
  | .styled, .dict entries => Writable .indented (.dict entries)
  | .styled, .list items => Writable .indented (.list items)
  | .styled, v => v.printable = true

/-- What has a text has lines. -/
theorem printable_of_mem_lineParts {v : Value} (h : v.printable = true) :
    ∀ part ∈ lineParts v, part.printable = true := by
  cases v with
  | dict entries =>
    intro part mem
    obtain ⟨e, he, mem⟩ := List.mem_flatMap.1 mem
    obtain ⟨key, value⟩ := Value.entriesPrintable_iff.1 h e he
    rcases List.mem_pair.1 mem with rfl | rfl
    exacts [key, value]
  | list items =>
    intro part mem
    obtain ⟨item, inside, mem⟩ := List.mem_flatMap.1 mem
    have printable := Value.allPrintable_iff.1 h item inside
    cases item with
    | dict entries =>
      obtain ⟨e, he, rfl⟩ := List.mem_map.1 mem
      exact (Value.entriesPrintable_iff.1 printable e he).2
    | _ => exact List.mem_singleton.1 mem ▸ printable
  | _ => exact List.forall_mem_singleton.2 h

/-- What has been read can be shown in every form, but for a text that writes a number of too many
digits. -/
theorem Json.Named.showable {form : DataForm} {v : Value} (h : Named v)
    (readable : form = .plain ∨ ∀ t, v = .text t → Readable t) :
    Showable form v := by
  cases form with
  | plain => exact printable_of_mem_lineParts h.printable
  | json | styled =>
    have readable := readable.resolve_left nofun
    cases v with
    | text t => exact readable t rfl
    | dict | list => exact h.writable _
    | _ => first | exact h.writable _ | exact h.printable

/-! ## What the platform shows -/

/-- The work of writing a value as JSON. Only a container goes deep into the stack. -/
def Value.writing (v : Value) : List Work := if v.isContainer then [.writeJson v] else []

/-- The work of making the text of a value. -/
def Value.displaying (v : Value) : List Work := if v.isContainer then [.display v] else []

/-- The work of reading a text as JSON and of writing what it says. -/
def Report.rereading (text : String) : List Work :=
  .readJson .report text :: match Json.read text with
    | .ok v => v.writing
    | .error _ => []

/-- The work of showing data in a form. -/
def Report.work (form : DataForm) (data : Value) : List Work :=
  match form, data with
  | .plain, v => (lineParts v).flatMap Value.displaying
  | .json, .text s | .styled, .text s => rereading s
  | .json, v => v.writing
  | .styled, .dict entries => (Value.dict entries).writing
  | .styled, .list items => (Value.list items).writing
  | .styled, v => v.displaying

/-- The stack suffices for pieces of work. -/
def Platform.Suffices [Platform] (works : List Work) : Prop :=
  ∀ work ∈ works, Platform.exhausts work = false

/-- The platform shows data in a form: the stack suffices for the work, and the output refuses
nothing it is handed. -/
structure Fits [Platform] (form : DataForm) (data : Value) : Prop where
  shallow : Platform.Suffices (Report.work form data)
  taken : ∀ shown, .ok shown ∈ Report.drafts form data → Platform.refuses shown = none

/-- The usual platform shows everything. -/
theorem fits_usual (form : DataForm) (data : Value) : @Fits .usual form data :=
  let _ : Platform := .usual
  ⟨fun _ _ => rfl, fun _ _ => rfl⟩

variable [Platform]

theorem suffices_nil : Platform.Suffices [] := List.forall_mem_nil _

theorem suffices_cons_iff {first : Work} {rest : List Work} :
    Platform.Suffices (first :: rest) ↔
      Platform.exhausts first = false ∧ Platform.Suffices rest :=
  List.forall_mem_cons

theorem suffices_ite_iff {w : Work} {deep : Bool} :
    Platform.Suffices (if deep then [w] else []) ↔ (deep && Platform.exhausts w) = false := by
  cases deep with
  | false => exact ⟨fun _ => rfl, fun _ => suffices_nil⟩
  | true => exact List.forall_mem_singleton

theorem suffices_flatMap_iff {vs : List Value} {f : Value → List Work} :
    Platform.Suffices (vs.flatMap f) ↔ ∀ v ∈ vs, Platform.Suffices (f v) := by
  simp only [Platform.Suffices, List.mem_flatMap, forall_exists_index, and_imp]
  exact ⟨fun h v hv work mem => h work v hv mem, fun h work v hv mem => h v hv work mem⟩

theorem hasText_iff {v : Value} :
    v.HasText ↔ v.printable = true ∧ Platform.Suffices v.displaying := by
  rw [Value.displaying, suffices_ite_iff]
  exact ⟨fun h => ⟨h.printable, h.shallow⟩, fun h => ⟨h.2, h.1⟩⟩

/-! ## Texts -/

theorem exists_asText_iff {v : Value} : (∃ s, v.asText = .ok s) ↔ v.HasText :=
  ⟨fun ⟨_, h⟩ => (Value.asText_eq_ok.1 h).1, fun h => ⟨_, h.asText⟩⟩

/-- A value is written as JSON if it can be and the stack suffices for it. -/
theorem exists_writeText_iff {l : Layout} {v : Value} :
    (∃ s, Json.writeText l v = .ok s) ↔ Writable l v ∧ Platform.Suffices v.writing := by
  rw [Value.writing, suffices_ite_iff, ← exists_write_iff]
  unfold Json.writeText
  split
  · rename_i deep
    rw [deep]
    exact ⟨nofun, nofun⟩
  · rename_i shallow
    simp only [Outcome.mapError_eq_ok, Bool.not_eq_true _ ▸ shallow, and_true]

theorem exists_entryLine_iff {e : Value × Value} :
    (∃ s, Report.entryLine e = .ok s) ↔ ∀ part ∈ [e.1, e.2], part.HasText := by
  rw [List.forall_mem_cons, List.forall_mem_singleton, ← exists_asText_iff, ← exists_asText_iff]
  constructor
  · rintro ⟨s, h⟩
    obtain ⟨key, first, h⟩ := Outcome.bind_eq_ok.1 h
    obtain ⟨value, second, -⟩ := Outcome.bind_eq_ok.1 h
    exact ⟨⟨key, first⟩, value, second⟩
  · rintro ⟨⟨key, first⟩, value, second⟩
    exact ⟨_, Outcome.bind_eq_ok.2 ⟨key, first, Outcome.bind_eq_ok.2 ⟨value, second, rfl⟩⟩⟩

theorem exists_itemLine_iff {v : Value} :
    (∃ s, Report.itemLine v = .ok s) ↔ ∀ part ∈ itemParts v, part.HasText := by
  cases v with
  | dict entries =>
    simp only [Report.itemLine, itemParts, Outcome.exists_map_eq_ok, Outcome.exists_mapM_eq_ok,
      exists_asText_iff]
  | _ => exact exists_asText_iff.trans List.forall_mem_singleton.symm

theorem forall_plainLines_iff {v : Value} :
    (∀ l ∈ Report.plainLines v, ∃ s, l = .ok s) ↔ ∀ part ∈ lineParts v, part.HasText := by
  cases v with
  | dict entries =>
    rw [Report.plainLines, List.forall_mem_map, lineParts, List.forall_mem_flatMap]
    exact forall₂_congr fun _ _ => exists_entryLine_iff
  | list items =>
    rw [Report.plainLines, List.forall_mem_map, lineParts, List.forall_mem_flatMap]
    exact forall₂_congr fun _ _ => exists_itemLine_iff
  | _ => exact List.forall_mem_singleton.trans (exists_asText_iff.trans
      List.forall_mem_singleton.symm)

/-! ## Showing -/

section

variable {report : Report} {form : DataForm} {data : Value}

theorem parsed_of_value (plain : ∀ t, data ≠ .text t) : Report.parsed data = .ok (data, true) := by
  unfold Report.parsed
  split
  · exact absurd rfl (plain _)
  · rfl

/-- What is made of a text in JSON or styled form: it must be readable, and the stack must suffice
for reading it and for writing what it says. -/
theorem exists_parsed_text_iff {α : Type} {t : String} {f : Value × Bool → Except Failure α}
    (value : ∀ v, Json.read t = .ok v →
      ((∃ a, f (v, true) = .ok a) ↔ Platform.Suffices v.writing))
    (bare : ∃ a, f (.text t, false) = .ok a) :
    (∃ a, Report.parsed (.text t) >>= f = .ok a) ↔
      Readable t ∧ Platform.Suffices (Report.rereading t) := by
  rw [Report.rereading, suffices_cons_iff]
  cases deep : Platform.exhausts (.readJson .report t) with
  | true =>
    have fails : Report.parsed (.text t) = .error (.broken .tooDeep) := by
      rw [Report.parsed, Json.readAt, if_pos deep]
      rfl
    rw [fails]
    constructor
    · rintro ⟨_, ⟨⟩⟩
    · rintro ⟨-, ⟨⟩, -⟩
  | false =>
    rw [Report.parsed, Json.readAt_of_shallow deep, Readable]
    cases read : Json.read t with
    | ok v =>
      refine (value v read).trans ⟨fun h => ⟨?_, rfl, h⟩, fun h => h.2.2⟩
      rintro _ ⟨⟩
    | error fault =>
      cases failure : fault.failure? t with
      | none =>
        dsimp only
        rw [failure]
        refine ⟨fun _ => ⟨?_, rfl, suffices_nil⟩, fun _ => bare⟩
        rintro _ ⟨⟩
        exact failure
      | some f =>
        dsimp only
        rw [failure]
        constructor
        · rintro ⟨_, ⟨⟩⟩
        · rintro ⟨readable, -⟩
          cases failure.symm.trans (readable fault rfl)

/-- What is shown in JSON form. -/
theorem exists_jsonText_iff : (∃ text, Report.jsonText data = .ok text) ↔
    Showable .json data ∧ Platform.Suffices (Report.work .json data) := by
  have value {v : Value} (plain : ∀ t, v ≠ .text t) :
      (∃ text, Report.jsonText v = .ok text) ↔
        Writable .indented v ∧ Platform.Suffices v.writing := by
    rw [← exists_writeText_iff, Report.jsonText, parsed_of_value plain]
    rfl
  cases data with
  | text t =>
    refine exists_parsed_text_iff (fun v read => ?_) ⟨t, rfl⟩
    exact exists_writeText_iff.trans (and_iff_right ((named_of_read read).writable _))
  | _ => exact value nofun

/-- What is shown in styled form. -/
theorem exists_styledData_iff : (∃ styled, Report.styledData data = .ok styled) ↔
    Showable .styled data ∧ Platform.Suffices (Report.work .styled data) := by
  have code (v : Value) : (∃ styled, (Json.writeText .indented v).map Styled.code = .ok styled) ↔
      Writable .indented v ∧ Platform.Suffices v.writing :=
    Outcome.exists_map_eq_ok.trans exists_writeText_iff
  have bare (v : Value) : (∃ styled, v.asText.map Styled.text = .ok styled) ↔
      v.printable = true ∧ Platform.Suffices v.displaying :=
    Outcome.exists_map_eq_ok.trans (exists_asText_iff.trans hasText_iff)
  have other {v : Value} (made : Report.styledData v = v.asText.map .text) :
      (∃ styled, Report.styledData v = .ok styled) ↔
        v.printable = true ∧ Platform.Suffices v.displaying :=
    made ▸ bare v
  cases data with
  | text t =>
    refine exists_parsed_text_iff (fun v read => ?_) ⟨.text t, rfl⟩
    have named := named_of_read read
    cases v with
    | dict | list => exact (code _).trans (and_iff_right (named.writable _))
    | tuple | set => cases named
    | _ => exact (bare _).trans (and_iff_right named.printable)
  | dict | list => exact code _
  | _ => exact other rfl

/-- Data is drafted exactly if it can be shown and the stack suffices. -/
theorem forall_drafts_iff : (∀ draft ∈ Report.drafts form data, ∃ shown, draft = .ok shown) ↔
    Showable form data ∧ Platform.Suffices (Report.work form data) := by
  cases form with
  | plain =>
    rw [Report.drafts, List.forall_mem_map]
    simp only [Outcome.exists_map_eq_ok, forall_plainLines_iff, hasText_iff, Showable, Report.work,
      suffices_flatMap_iff]
    exact ⟨fun h => ⟨fun part mem => (h part mem).1, fun part mem => (h part mem).2⟩,
      fun h part mem => ⟨h.1 part mem, h.2 part mem⟩⟩
  | json =>
    rw [Report.drafts, List.forall_mem_singleton, Outcome.exists_map_eq_ok, exists_jsonText_iff]
  | styled =>
    rw [Report.drafts, List.forall_mem_singleton, Outcome.exists_map_eq_ok, exists_styledData_iff]

theorem put_eq_ok_iff {draft shown : Shown} :
    Report.put draft = .ok shown ↔ Platform.refuses draft = none ∧ draft = shown := by
  rw [Report.put]
  cases Platform.refuses draft with
  | none => exact ⟨fun h => ⟨rfl, Except.ok.inj h⟩, fun h => congrArg _ h.2⟩
  | some breakdown => exact ⟨nofun, nofun⟩

/-- **Data is shown exactly if it can be shown in the form and the platform shows it.** -/
theorem exists_response_iff : (∃ shown, report.response data = .ok shown) ↔
    Showable report.form data ∧ Fits report.form data := by
  have steps : (∃ shown, report.response data = .ok shown) ↔
      (∀ draft ∈ Report.drafts report.form data, ∃ shown, draft = .ok shown) ∧
        ∀ shown, .ok shown ∈ Report.drafts report.form data → Platform.refuses shown = none := by
    rw [Report.response, Outcome.exists_mapM_eq_ok, Report.responseSteps, List.forall_mem_map]
    simp only [id_eq]
    constructor
    · intro h
      refine ⟨fun draft mem => ?_, fun shown mem => ?_⟩
      · obtain ⟨_, put⟩ := h draft mem
        obtain ⟨shown, drafted, -⟩ := Outcome.bind_eq_ok.1 put
        exact ⟨shown, drafted⟩
      · obtain ⟨_, put⟩ := h _ mem
        exact (put_eq_ok_iff.1 put).1
    · rintro ⟨drafted, taken⟩ draft mem
      obtain ⟨shown, rfl⟩ := drafted draft mem
      exact ⟨shown, put_eq_ok_iff.2 ⟨taken shown mem, rfl⟩⟩
  rw [steps, forall_drafts_iff, and_assoc]
  exact and_congr_right fun _ => ⟨fun h => ⟨h.1, h.2⟩, fun h => ⟨h.shallow, h.taken⟩⟩

/-! ## Failing -/

theorem uncoded_asText {v : Value} {f : Failure} (h : v.asText = .error f) :
    f.exitCode? = none :=
  Failure.IsWordless.exitCode? ⟨v, h⟩

theorem uncoded_writeText {l : Layout} {v : Value} {f : Failure}
    (h : Json.writeText l v = .error f) : f.exitCode? = none := by
  unfold Json.writeText at h
  split at h
  · cases h
    rfl
  · obtain ⟨fault, -, rfl⟩ := Outcome.mapError_eq_error.1 h
    exact fault.exitCode?_failure

theorem uncoded_parsed {v : Value} {f : Failure} (h : Report.parsed v = .error f) :
    f.exitCode? = none := by
  unfold Report.parsed at h
  split at h
  · split at h
    · cases h
    · rename_i fault _
      cases fault <;> cases h <;> rfl
  · cases h

theorem uncoded_plainLines {v : Value} {f : Failure}
    (h : (.error f : Except Failure String) ∈ Report.plainLines v) : f.exitCode? = none := by
  cases v with
  | dict entries =>
    obtain ⟨e, -, fails⟩ := List.mem_map.1 h
    rcases Outcome.bind_eq_error.1 fails with fails | ⟨_, -, fails⟩
    · exact uncoded_asText fails
    · rcases Outcome.bind_eq_error.1 fails with fails | ⟨_, -, ⟨⟩⟩
      exact uncoded_asText fails
  | list items =>
    obtain ⟨item, -, fails⟩ := List.mem_map.1 h
    cases item with
    | dict entries =>
      obtain ⟨v, -, fails⟩ := Outcome.exists_of_mapM_eq_error (Outcome.map_eq_error.1 fails)
      exact uncoded_asText fails
    | _ => exact uncoded_asText fails
  | _ => exact uncoded_asText (List.mem_singleton.1 h).symm

theorem uncoded_drafts {f : Failure} (h : .error f ∈ Report.drafts form data) :
    f.exitCode? = none := by
  cases form with
  | plain =>
    obtain ⟨line, member, fails⟩ := List.mem_map.1 h
    exact uncoded_plainLines (Outcome.map_eq_error.1 fails ▸ member)
  | json =>
    have fails := Outcome.map_eq_error.1 (List.mem_singleton.1 h).symm
    rcases Outcome.bind_eq_error.1 fails with fails | ⟨⟨v, isJson⟩, -, fails⟩
    · exact uncoded_parsed fails
    · dsimp only at fails
      split at fails
      · exact uncoded_writeText fails
      · cases fails
  | styled =>
    have fails := Outcome.map_eq_error.1 (List.mem_singleton.1 h).symm
    rcases Outcome.bind_eq_error.1 fails with fails | ⟨⟨v, isJson⟩, -, fails⟩
    · exact uncoded_parsed fails
    · dsimp only at fails
      split at fails
      · exact uncoded_writeText (Outcome.map_eq_error.1 fails)
      · exact uncoded_writeText (Outcome.map_eq_error.1 fails)
      · exact uncoded_asText (Outcome.map_eq_error.1 fails)

/-- Data fails to be shown without an exit code of its own. -/
theorem uncoded_response {f : Failure} (h : report.response data = .error f) :
    f.exitCode? = none := by
  obtain ⟨step, member, fails⟩ := Outcome.exists_of_mapM_eq_error h
  obtain ⟨draft, drafted, rfl⟩ := List.mem_map.1 member
  rcases Outcome.bind_eq_error.1 fails with fails | ⟨shown, -, fails⟩
  · exact uncoded_drafts (fails ▸ drafted)
  · rw [Report.put] at fails
    split at fails
    · cases fails
      rfl
    · cases fails

end

end RouteSchema
