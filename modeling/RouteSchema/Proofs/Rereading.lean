import RouteSchema.Proofs.Generating
import RouteSchema.Proofs.Reading

/-!
# Reading again

A compiled document computes its values anew whenever they are asked for. Asking leaves the world as
it is, so that an answer is told from the document and the world of the moment alone, whatever was
asked before.

* `Valued` and `Missed`: how the resolution of an endpoint ends, told from the entries of a
  document.
* `materialize_eq_ok`, `materialize_eq_error`: a materialization is told from the resolutions of the
  single endpoints.
* `answers_afresh`: the answers of a compiled document along a history.
-/

namespace RouteSchema

open Stateful

/-! ## Endpoints of documents -/

/-- The compiled schema of a document. -/
def Document.compile [Platform] (doc : Value) : Except Failure Compiled := do
  (Compiled.ofTree (← Document.tree doc)).mapError .authoring

/-- An attribute of an endpoint carries on an entry of a document: it has its key, and gives what
its value stands for. -/
def CarriesOn (e : String × Attribute) (origin : Value × Value) : Prop :=
  e.1 = origin.1.display ∧ Rereads e.2 origin.2

/-- An endpoint has the attributes that entries stand for in a world. -/
structure Valued (w : World) (d : Definition) (origins : List (Value × Value)) (r : Resolved) :
    Prop where
  id : r.id = d.id
  path : r.path = d.path
  method : r.method = d.method
  values : List.Forall₂ (fun origin e => e.1 = origin.1.display ∧ Means w origin.2 e.2) origins
    r.attributes

/-- The first of some entries that stands for nothing in a world is reported for an endpoint, with
its key. -/
def Missed (w : World) (d : Definition) (origins : List (Value × Value)) (f : Failure) : Prop :=
  ∃ before origin after cause, origins = before ++ origin :: after ∧
    (∀ o ∈ before, ∃ u, Means w o.2 u) ∧ (∀ u, ¬Means w origin.2 u) ∧
    f = .resolution d.id origin.1.display cause

theorem ofTree_eq_ok {t : SchemaTree} {c : Compiled} (h : Compiled.ofTree t = .ok c) :
    c.tree = t := by
  rw [Compiled.ofTree] at h
  split at h
  · cases h
    rfl
  · cases h

theorem resolveEntry_eq_ok {id : String} {e : String × Attribute} {o : String × Value} {w : World} :
    (outcome (Definition.resolveEntry id e) w).1 = .ok o ↔
      o.1 = e.1 ∧ (outcome e.2.evaluate w).1 = .ok o.2 := by
  rw [outcome_resolveEntry]
  obtain ⟨key, u⟩ := o
  rcases outcome e.2.evaluate w with ⟨cause | v, w'⟩
  · exact ⟨nofun, nofun⟩
  · constructor
    · rintro ⟨⟩
      exact ⟨rfl, rfl⟩
    · rintro ⟨same, ⟨⟩⟩
      cases same
      rfl

theorem resolveEntry_eq_error {id : String} {e : String × Attribute} {w : World} {f : Failure} :
    (outcome (Definition.resolveEntry id e) w).1 = .error f ↔ ∃ cause,
      (outcome e.2.evaluate w).1 = .error cause ∧ f = .resolution id e.1 cause := by
  rw [outcome_resolveEntry]
  rcases outcome e.2.evaluate w with ⟨cause | v, w'⟩
  · constructor
    · rintro ⟨⟩
      exact ⟨cause, rfl, rfl⟩
    · rintro ⟨_, ⟨⟩, rfl⟩
      rfl
  · exact ⟨nofun, nofun⟩

theorem readOnly_resolveEntry {id : String} {e : String × Attribute} (h : ReadOnly e.2.evaluate) :
    ReadOnly (Definition.resolveEntry id e) := by
  intro w
  rw [outcome_resolveEntry, h.outcome_eq w]
  cases (outcome e.2.evaluate w).1 <;> rfl

section

variable {d : Definition} {origin : String × Attribute → Value × Value}
  (carried : ∀ e ∈ d.attributes, CarriesOn e (origin e))

include carried

theorem readOnly_entries : ∀ e ∈ d.attributes, ReadOnly (Definition.resolveEntry d.id e) :=
  fun e he => readOnly_resolveEntry (carried e he).2.readOnly

theorem readOnly_resolve : ReadOnly d.resolve :=
  .bind (.mapM (readOnly_entries carried)) fun _ => .pure _

theorem resolve_eq_ok {w : World} {r : Resolved} :
    (outcome d.resolve w).1 = .ok r ↔ Valued w d (d.attributes.map origin) r := by
  have entries : ∀ {out}, (outcome (d.attributes.mapM (Definition.resolveEntry d.id)) w).1 =
      .ok out ↔ List.Forall₂ (fun o e => e.1 = o.1.display ∧ Means w o.2 e.2)
        (d.attributes.map origin) out := by
    intro out
    have one : ∀ e ∈ d.attributes, ∀ o, (outcome (Definition.resolveEntry d.id e) w).1 = .ok o ↔
        o.1 = (origin e).1.display ∧ Means w (origin e).2 o.2 := fun e he o => by
      rw [resolveEntry_eq_ok, (carried e he).1, (carried e he).2.gives]
    rw [ReadOnly.mapM_eq_ok (readOnly_entries carried), List.forall₂_map_left_iff,
      List.forall₂_iff_zip, List.forall₂_iff_zip]
    refine and_congr_right fun _ => ⟨fun h e o pair => ?_, fun h e o pair => ?_⟩
    · exact (one e (List.of_mem_zip pair).1 o).1 (h pair)
    · exact (one e (List.of_mem_zip pair).1 o).2 (h pair)
  rw [Definition.resolve, (ReadOnly.mapM (readOnly_entries carried)).bind_eq_ok]
  constructor
  · rintro ⟨out, values, ⟨⟩⟩
    exact ⟨rfl, rfl, rfl, entries.1 values⟩
  · obtain ⟨id, path, method, attributes⟩ := r
    rintro ⟨⟨⟩, ⟨⟩, ⟨⟩, values⟩
    exact ⟨attributes, entries.2 values, rfl⟩

theorem missed_of_resolve {w : World} {f : Failure} (h : (outcome d.resolve w).1 = .error f) :
    Missed w d (d.attributes.map origin) f := by
  rw [Definition.resolve, (ReadOnly.mapM (readOnly_entries carried)).bind_eq_error] at h
  rcases h with h | ⟨_, _, ⟨⟩⟩
  obtain ⟨before, e, after, split, given, fails⟩ :=
    (ReadOnly.mapM_eq_error (readOnly_entries carried)).1 h
  obtain ⟨cause, evaluated, rfl⟩ := resolveEntry_eq_error.1 fails
  have here := carried e (split ▸ List.mem_append_right _ List.mem_cons_self)
  refine ⟨before.map origin, origin e, after.map origin, cause, ?_, fun o ho => ?_,
    fun u means => ?_, by rw [← here.1]⟩
  · rw [split, List.map_append, List.map_cons]
  · obtain ⟨b, hb, rfl⟩ := List.mem_map.1 ho
    obtain ⟨out, found⟩ := given b hb
    have there := carried b (split ▸ List.mem_append_left _ hb)
    exact ⟨out.2, (there.2.gives w out.2).1 (resolveEntry_eq_ok.1 found).2⟩
  · cases evaluated.symm.trans ((here.2.gives w u).2 means)

end

/-! ## Compiled documents -/

theorem outcome_resolve_of_mem {c : Compiled} {d : Definition} (h : d ∈ c.table) (w : World) :
    outcome (c.resolve d.id) w = outcome d.resolve w := by
  rw [Compiled.resolve, Compiled.definition_of_mem h]
  rfl

section

variable [Platform] {doc : Value} {c : Compiled} (compiled : Document.compile doc = .ok c)

include compiled

/-- Every attribute of an endpoint carries on an entry of the document, which stands along the way
to the endpoint. -/
theorem exists_origin {d : Definition} (h : d ∈ c.table) :
    ∃ (way : Way) (origin : String × Attribute → Value × Value),
      Leads c.tree.root way ∧ Describes c.tree.address way d ∧
      ∀ e ∈ d.attributes, CarriesOn e (origin e) ∧
        ∃ scope, scope <+: way.segments ∧ Document.Declares doc scope (origin e) := by
  obtain ⟨t, described, made⟩ := Outcome.bind_eq_ok.1 compiled
  obtain rfl := ofTree_eq_ok (Outcome.mapError_eq_ok.1 made)
  obtain ⟨way, hway, named, definition⟩ := (walked_flatten c.flattened).exists_way h
  have lead := mem_ways.1 hway
  have describes : Describes c.tree.address way d := definition ▸ way.describes named
  have declared : ∀ e ∈ d.attributes, ∃ origin : Value × Value, CarriesOn e origin ∧
      ∃ scope, scope <+: way.segments ∧ Document.Declares doc scope origin := by
    intro e he
    obtain ⟨member, key⟩ := describes.declared e he
    obtain ⟨scope, down, origin, declares, same, rereads⟩ :=
      (throughout_tree described).declared lead e.2 member
    exact ⟨origin, ⟨key.trans same, rereads⟩, scope, down, declares⟩
  choose! origin holds using declared
  exact ⟨way, origin, lead, describes, holds⟩

theorem readOnly_definition {d : Definition} (h : d ∈ c.table) : ReadOnly d.resolve := by
  obtain ⟨_, _, -, -, holds⟩ := exists_origin compiled h
  exact readOnly_resolve fun e he => (holds e he).1

theorem readOnly_materialize : ReadOnly c.materialize :=
  .mapM fun _ hd => readOnly_definition compiled hd

theorem readOnly_resolve_id (id : String) : ReadOnly (c.resolve id) := by
  cases found : c.definition id with
  | error f =>
    intro w
    rw [Compiled.resolve, found]
    rfl
  | ok d =>
    intro w
    rw [Compiled.resolve, found]
    exact readOnly_definition compiled (Compiled.mem_of_definition found) w

end

/-! ## Answers along a history -/

/-- What a compiled schema may be asked for. -/
inductive Query
  | materialize
  | resolve (id : String)

/-- The endpoints that a query yields at this moment. -/
def Compiled.ask (c : Compiled) : Query → Eval (List Resolved)
  | .materialize => c.materialize
  | .resolve id => do return [← c.resolve id]

/-- A step of a history. -/
inductive Event
  /-- The world changes, in any way. -/
  | change (next : World → World)
  | query (q : Query)

/-- The answers of one compiled schema along a history, which starts in a world. -/
def Compiled.answers (c : Compiled) : List Event → World → List (Except Failure (List Resolved))
  | [], _ => []
  | .change next :: rest, w => c.answers rest (next w)
  | .query q :: rest, w =>
    let (answer, w') := outcome (c.ask q) w
    answer :: c.answers rest w'

/-- The queries of a history, each with the world as the changes before it have made it. -/
def moments : List Event → World → List (Query × World)
  | [], _ => []
  | .change next :: rest, w => moments rest (next w)
  | .query q :: rest, w => (q, w) :: moments rest w

/-- The answer of a document that is compiled for one query only. -/
def Document.answer [Platform] (doc : Value) (moment : Query × World) :
    Except Failure (List Resolved) :=
  match Document.compile doc with
  | .ok c => (outcome (c.ask moment.1) moment.2).1
  | .error f => .error f

theorem readOnly_ask [Platform] {doc : Value} {c : Compiled}
    (compiled : Document.compile doc = .ok c) : ∀ q, ReadOnly (c.ask q)
  | .materialize => readOnly_materialize compiled
  | .resolve id => .bind (readOnly_resolve_id compiled id) fun _ => .pure _

/-- Nothing but the world of the moment tells an answer from another. -/
theorem answers_eq [Platform] {doc : Value} {c : Compiled}
    (compiled : Document.compile doc = .ok c) (history : List Event) (w : World) :
    c.answers history w = (moments history w).map (Document.answer doc) := by
  induction history generalizing w with
  | nil => rfl
  | cons event rest ih =>
    cases event with
    | change next => exact ih (next w)
    | query q =>
      have fresh : Document.answer doc (q, w) = (outcome (c.ask q) w).1 := by
        rw [Document.answer, compiled]
      show (outcome (c.ask q) w).1 :: c.answers rest (outcome (c.ask q) w).2 = _
      rw [readOnly_ask compiled q w, ih, moments, List.map_cons, fresh]

/-- The resolved table holds, for every identifier, what resolving it alone gives in the same
world. -/
theorem materialize_eq_ok [Platform] {doc : Value} {c : Compiled}
    (compiled : Document.compile doc = .ok c) {w : World} {rs : List Resolved} :
    (outcome c.materialize w).1 = .ok rs ↔
      List.Forall₂ (fun id r => (outcome (c.resolve id) w).1 = .ok r) c.ids rs := by
  rw [Compiled.materialize, Definition.resolveAll,
    ReadOnly.mapM_eq_ok fun d hd => readOnly_definition compiled hd, c.ids_eq,
    List.forall₂_map_left_iff, List.forall₂_iff_zip, List.forall₂_iff_zip]
  refine and_congr_right fun _ => ⟨fun h d r pair => ?_, fun h d r pair => ?_⟩
  · rw [outcome_resolve_of_mem (List.of_mem_zip pair).1]
    exact h pair
  · rw [← outcome_resolve_of_mem (List.of_mem_zip pair).1]
    exact h pair

/-- Materialization fails as the first identifier in the order of the table whose resolution alone
fails. -/
theorem materialize_eq_error [Platform] {doc : Value} {c : Compiled}
    (compiled : Document.compile doc = .ok c) {w : World} {f : Failure} :
    (outcome c.materialize w).1 = .error f ↔ ∃ before id after, c.ids = before ++ id :: after ∧
      (∀ i ∈ before, ∃ r, (outcome (c.resolve i) w).1 = .ok r) ∧
      (outcome (c.resolve id) w).1 = .error f := by
  rw [Compiled.materialize, Definition.resolveAll,
    ReadOnly.mapM_eq_error fun d hd => readOnly_definition compiled hd, c.ids_eq]
  constructor
  · rintro ⟨before, d, after, split, given, fails⟩
    have member : ∀ e ∈ before ++ d :: after, e ∈ c.table := fun e he => split ▸ he
    refine ⟨before.map Definition.id, d.id, after.map Definition.id, ?_, fun i hi => ?_, ?_⟩
    · rw [split, List.map_append, List.map_cons]
    · obtain ⟨b, hb, rfl⟩ := List.mem_map.1 hi
      rw [outcome_resolve_of_mem (member b (List.mem_append_left _ hb))]
      exact given b hb
    · rwa [outcome_resolve_of_mem (member d (List.mem_append_right _ List.mem_cons_self))]
  · rintro ⟨before, id, after, split, given, fails⟩
    obtain ⟨early, rest, table, rfl, tail⟩ := List.map_eq_append_iff.1 split
    obtain ⟨d, late, rfl, rfl, rfl⟩ := List.map_eq_cons_iff.1 tail
    have member : ∀ e ∈ early ++ d :: late, e ∈ c.table := fun e he => table ▸ he
    refine ⟨early, d, late, table, fun b hb => ?_, ?_⟩
    · rw [← outcome_resolve_of_mem (member b (List.mem_append_left _ hb))]
      exact given b.id (List.mem_map_of_mem hb)
    · rwa [← outcome_resolve_of_mem (member d (List.mem_append_right _ List.mem_cons_self))]

/-- **A compiled document answers as if it were compiled for every query.** Its answers along a
history are those of the document in the world of the moment. An endpoint has the values that the
entries of the document stand for in that world, or the first of them that stands for nothing is
reported; and a materialization is made of the endpoints as they are resolved one by one. -/
theorem answers_afresh [Platform] {doc : Value} {c : Compiled}
    (compiled : Document.compile doc = .ok c) :
    (∀ history w, c.answers history w = (moments history w).map (Document.answer doc)) ∧
    (∀ d ∈ c.table, ∃ way origins, Leads c.tree.root way ∧ Describes c.tree.address way d ∧
      (∀ o ∈ origins, ∃ scope, scope <+: way.segments ∧ Document.Declares doc scope o) ∧
      ∀ w, (∀ r, (outcome (c.resolve d.id) w).1 = .ok r ↔ Valued w d origins r) ∧
        ∀ f, (outcome (c.resolve d.id) w).1 = .error f → Missed w d origins f) ∧
    ∀ w, (∀ rs, (outcome c.materialize w).1 = .ok rs ↔
        List.Forall₂ (fun id r => (outcome (c.resolve id) w).1 = .ok r) c.ids rs) ∧
      ∀ f, (outcome c.materialize w).1 = .error f ↔ ∃ before id after,
        c.ids = before ++ id :: after ∧
        (∀ i ∈ before, ∃ r, (outcome (c.resolve i) w).1 = .ok r) ∧
        (outcome (c.resolve id) w).1 = .error f := by
  refine ⟨answers_eq compiled, fun d hd => ?_, fun w =>
    ⟨fun rs => materialize_eq_ok compiled, fun f => materialize_eq_error compiled⟩⟩
  obtain ⟨way, origin, lead, describes, holds⟩ := exists_origin compiled hd
  refine ⟨way, d.attributes.map origin, lead, describes, fun o ho => ?_, fun w => ?_⟩
  · obtain ⟨e, he, rfl⟩ := List.mem_map.1 ho
    exact (holds e he).2
  · rw [outcome_resolve_of_mem hd]
    have carried := fun e he => (holds e he).1
    exact ⟨fun r => resolve_eq_ok carried, fun f => missed_of_resolve carried⟩

/-- A document with a variable, one with a default that is null, and a file. -/
def notes : Value := .dict
  [(.text "root", .text "https://svc.com"),
    (.text "attributes", .dict
      [(.text "token", .dict [(.text "$env", .text "TOKEN")]),
        (.text "lang", .dict [(.text "$env", .text "LANG"), (.text "default", .null)])]),
    (.text "routes", .dict
      [(.text "open", .dict [(.text "endpoint", .text "open")]),
        (.text "notes", .dict
          [(.text "endpoint", .text "note"),
            (.text "attributes", .dict
              [(.text "text", .dict [(.text "$file", .text "note.txt")])])])])]

/-- A variable is set to the empty text, a file is written, and the variable is removed. -/
def edits : List Event :=
  [.query .materialize,
    .change (·.setVariable "TOKEN" (some "")), .query .materialize, .query (.resolve "open"),
    .change (·.write ⟨"", ["note.txt"]⟩ (Utf8.encode " hi\n")), .query .materialize,
    .change (·.setVariable "TOKEN" none), .query (.resolve "note")]

theorem answers_afresh_notes :
    let _ : Platform := .usual
    ∃ c, Document.compile notes = .ok c ∧
      (c.answers edits ⟨⟨"/", []⟩, [], [], fun _ => 0, fun _ => none⟩).map (fun answer =>
        answer.toOption.map (·.map fun r => (Assoc.values r.attributes).map Value.display)) =
        [none, none, some [["", "None"]], some [["", "None"], ["", "None", "hi"]], none] := by
  intro _
  obtain ⟨c, compiled, -⟩ : ∃ c, @Document.compile .usual notes = .ok c ∧
      c.ids = ["open", "note"] := Outcome.exists_of_toOption_map (by decide +kernel)
  refine ⟨c, compiled, ?_⟩
  rw [(answers_afresh compiled).1]
  decide +kernel

end RouteSchema
