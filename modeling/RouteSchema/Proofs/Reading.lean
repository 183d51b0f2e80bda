import RouteSchema.Proofs.Building
import RouteSchema.Proofs.Descending

/-!
# Reading attributes of documents

A document declares its attributes as entries. The value of an entry stands for itself, or for what
is found under the name of a variable or of a file at the moment it is asked for.

* `Document.Declares` finds the entries of a document, and `Means` says what value an entry stands
  for in a world.
* `ReadOnly`: a computation leaves the world as it is, however it ends. A traversal of such
  computations gives the values that they give in one and the same world.
* `Rereads`: an attribute gives what the value of an entry stands for, and fails if that is nothing.
* `throughout_tree`: the attributes of a tree are those that its document declares.
-/

namespace RouteSchema

open Stateful

/-! ## What documents declare -/

/-- A document declares an entry of attributes in the node at some segments of its routes. -/
inductive Document.Declares : Value → List String → Value × Value → Prop
  | here {entries attributes : Dict} {entry : Value × Value}
      (own : part? entries "attributes" = some attributes) (h : entry ∈ attributes) :
      Declares (.dict entries) [] entry
  | inside {entries routes : Dict} {segment child : Value} {scope : List String}
      {entry : Value × Value} (own : part? entries "routes" = some routes)
      (h : (segment, child) ∈ routes) (rest : Declares child scope entry) :
      Declares (.dict entries) (segment.display :: scope) entry

/-- A path leads to a file with a text in it: its bytes are decoded, and its line breaks are line
feeds. -/
def World.Holds (w : World) (path text : String) : Prop :=
  ∃ f bytes decoded, (outcome (Source.expandHome (.ofString path)) w).1 = .ok f ∧
    w.find f = .entry (.file bytes) ∧ Utf8.decode bytes = .ok decoded ∧
    text = String.ofList (Eval.lineFeeds decoded.toList)

/-- What the value of an entry stands for in a world. -/
inductive Means (w : World) : Value → Value → Prop
  /-- A variable stands for its text, also if that is empty. -/
  | set {es : Dict} {name : Value} {text : String} (source : Dict.getText? es "$env" = some name)
      (current : Assoc.get? w.variables name.display = some text) : Means w (.dict es) (.text text)
  /-- Only a variable that is not set stands for its default, which may be null. -/
  | unset {es : Dict} {name value : Value} (source : Dict.getText? es "$env" = some name)
      (current : Assoc.get? w.variables name.display = none)
      (fallback : Dict.getText? es "default" = some value) : Means w (.dict es) value
  /-- A file stands for its text without the white space at its ends. -/
  | file {es : Dict} {path : Value} {text : String} (other : Dict.getText? es "$env" = none)
      (source : Dict.getText? es "$file" = some path) (current : w.Holds path.display text) :
      Means w (.dict es) (.text (Text.strip text))
  /-- A mapping that names no source stands for itself. -/
  | mapping {es : Dict} (other : Dict.getText? es "$env" = none)
      (another : Dict.getText? es "$file" = none) : Means w (.dict es) (.dict es)
  /-- Every other value stands for itself. -/
  | itself {v : Value} (other : v.dict? = none) : Means w v v

/-! ## Reading -/

/-- A computation leaves the world as it is, however it ends. -/
def ReadOnly {α : Type} (x : Eval α) : Prop := ∀ w, (outcome x w).2 = w

namespace ReadOnly

variable {α β : Type}

protected theorem pure (a : α) : ReadOnly (pure a) := fun _ => rfl

protected theorem throw (f : Failure) : ReadOnly (throw f : Eval α) := fun _ => rfl

protected theorem get : ReadOnly (get : Eval World) := fun _ => rfl

protected theorem bind {x : Eval α} {f : α → Eval β} (first : ReadOnly x)
    (rest : ∀ a, ReadOnly (f a)) : ReadOnly (x >>= f) := by
  intro w
  have kept := first w
  rcases ends : outcome x w with ⟨e | a, w'⟩
  · rw [ends] at kept
    rw [outcome_bind_error ends]
    exact kept
  · rw [ends] at kept
    rw [outcome_bind_ok ends, rest a]
    exact kept

/-- The end of a computation that leaves the world as it is. -/
theorem outcome_eq {x : Eval α} (h : ReadOnly x) (w : World) :
    outcome x w = ((outcome x w).1, w) := Prod.ext rfl (h w)

/-- What follows it finds the same world. -/
theorem bind_eq_ok {x : Eval α} (h : ReadOnly x) {f : α → Eval β} {w : World} {b : β} :
    (outcome (x >>= f) w).1 = .ok b ↔
      ∃ a, (outcome x w).1 = .ok a ∧ (outcome (f a) w).1 = .ok b := by
  have kept := h.outcome_eq w
  rcases ends : (outcome x w).1 with e | a
  · rw [ends] at kept
    rw [outcome_bind_error kept]
    exact ⟨nofun, nofun⟩
  · rw [ends] at kept
    rw [outcome_bind_ok kept]
    constructor
    · exact fun hb => ⟨a, rfl, hb⟩
    · rintro ⟨_, ⟨⟩, hb⟩
      exact hb

theorem bind_eq_error {x : Eval α} (h : ReadOnly x) {f : α → Eval β} {w : World} {e : Failure} :
    (outcome (x >>= f) w).1 = .error e ↔ (outcome x w).1 = .error e ∨
      ∃ a, (outcome x w).1 = .ok a ∧ (outcome (f a) w).1 = .error e := by
  have kept := h.outcome_eq w
  rcases ends : (outcome x w).1 with e' | a
  · rw [ends] at kept
    rw [outcome_bind_error kept]
    constructor
    · rintro ⟨⟩
      exact .inl rfl
    · rintro (⟨⟨⟩⟩ | ⟨_, ⟨⟩, _⟩)
      rfl
  · rw [ends] at kept
    rw [outcome_bind_ok kept]
    constructor
    · exact fun he => .inr ⟨a, rfl, he⟩
    · rintro (⟨⟨⟩⟩ | ⟨_, ⟨⟩, he⟩)
      exact he

protected theorem mapM {f : α → Eval β} {xs : List α} (h : ∀ x ∈ xs, ReadOnly (f x)) :
    ReadOnly (xs.mapM f) := by
  induction xs with
  | nil => exact .pure []
  | cons x xs ih =>
    rw [List.mapM_cons]
    exact .bind (h x List.mem_cons_self) fun y =>
      .bind (ih fun x' hx' => h x' (List.mem_cons_of_mem x hx')) fun ys => .pure (y :: ys)

/-- A traversal gives the values that its items give in the same world. -/
theorem mapM_eq_ok {f : α → Eval β} {xs : List α} (h : ∀ x ∈ xs, ReadOnly (f x)) {w : World}
    {ys : List β} : (outcome (xs.mapM f) w).1 = .ok ys ↔
      List.Forall₂ (fun x y => (outcome (f x) w).1 = .ok y) xs ys := by
  induction xs generalizing ys with
  | nil =>
    rw [List.mapM_nil, List.forall₂_nil_left_iff]
    constructor
    · rintro ⟨⟩
      rfl
    · rintro rfl
      rfl
  | cons x xs ih =>
    have rest := fun x' hx' => h x' (List.mem_cons_of_mem x hx')
    rw [List.mapM_cons, (h x List.mem_cons_self).bind_eq_ok, List.forall₂_cons_left_iff]
    simp only [(ReadOnly.mapM rest).bind_eq_ok, ih rest]
    constructor
    · rintro ⟨y, hy, ys', hys, ⟨⟩⟩
      exact ⟨y, ys', hy, hys, rfl⟩
    · rintro ⟨y, ys', hy, hys, rfl⟩
      exact ⟨y, hy, ys', hys, rfl⟩

/-- A traversal fails as the first failing item does. -/
theorem mapM_eq_error {f : α → Eval β} {xs : List α} (h : ∀ x ∈ xs, ReadOnly (f x)) {w : World}
    {e : Failure} : (outcome (xs.mapM f) w).1 = .error e ↔ ∃ before x after,
      xs = before ++ x :: after ∧ (∀ b ∈ before, ∃ y, (outcome (f b) w).1 = .ok y) ∧
      (outcome (f x) w).1 = .error e := by
  induction xs with
  | nil =>
    constructor
    · rintro ⟨⟩
    · rintro ⟨before, x, after, split, -⟩
      simp at split
  | cons x xs ih =>
    have rest := fun x' hx' => h x' (List.mem_cons_of_mem x hx')
    rw [List.mapM_cons, (h x List.mem_cons_self).bind_eq_error]
    simp only [(ReadOnly.mapM rest).bind_eq_error, ih rest]
    constructor
    · rintro (he | ⟨y, hy, ⟨before, x', after, rfl, given, he⟩ | ⟨ys, hys, ⟨⟩⟩⟩)
      · exact ⟨[], x, xs, rfl, fun b hb => absurd hb List.not_mem_nil, he⟩
      · refine ⟨x :: before, x', after, rfl, fun b hb => ?_, he⟩
        rcases List.mem_cons.1 hb with rfl | hb
        · exact ⟨y, hy⟩
        · exact given b hb
    · rintro ⟨_ | ⟨x₀, before⟩, x', after, split, given, he⟩
      · cases split
        exact .inl he
      · cases split
        obtain ⟨y, hy⟩ := given x List.mem_cons_self
        refine .inr ⟨y, hy, .inl ⟨before, x', after, rfl, fun b hb => ?_, he⟩⟩
        exact given b (List.mem_cons_of_mem x hb)

theorem variableOf (name : String) : ReadOnly (Eval.variableOf name) := fun _ => rfl

theorem lookup (f : FileName) : ReadOnly <| Eval.entry? f := by
  refine .bind .get fun w => ?_
  split
  · exact .pure _
  · exact .pure _
  · exact .throw _

theorem bytes? (f : FileName) : ReadOnly (Eval.bytes? f) := by
  refine .bind (.lookup f) fun found => ?_
  split
  · exact .pure _
  · exact .pure _

theorem decoded (bytes : List UInt8) : ReadOnly (Eval.decoded bytes) := by
  unfold Eval.decoded
  split
  · exact .pure _
  · exact .throw _

theorem text? (f : FileName) : ReadOnly (Eval.text? f) := by
  refine .bind (.bytes? f) fun found => ?_
  split
  · exact .bind (.decoded _) fun _ => .pure _
  · exact .pure _

theorem home? (user : String) : ReadOnly (Source.home? user) := by
  refine .bind .get fun w => ?_
  dsimp only
  split
  · exact .bind (.variableOf "HOME") fun _ => .pure _
  · exact .pure _

theorem expandHome (f : FileName) : ReadOnly (Source.expandHome f) := by
  unfold Source.expandHome
  split
  · split
    · refine .bind (.home? _) fun dir => ?_
      split
      · dsimp only
        split
        · exact .bind (.throw _) fun _ => .pure _
        · exact .pure _
      · exact .throw _
    · exact .pure _
  · exact .pure _

theorem read : ∀ source : Source, ReadOnly source.read
  | .setting name fallback => by
    refine .bind (.variableOf name) fun found => ?_
    split
    · exact .pure _
    · exact .pure _
    · exact .throw _
  | .file path => by
    refine .bind (.expandHome _) fun f => .bind (.text? f) fun found => ?_
    split
    · exact .pure _
    · exact .throw _

end ReadOnly

/-! ## What sources give -/

theorem variable_eq_ok {name : String} {fallback : Option Value} {w : World} {u : Value} :
    (outcome (Source.setting name fallback).read w).1 = .ok u ↔
      (∃ text, Assoc.get? w.variables name = some text ∧ u = .text text) ∨
      (Assoc.get? w.variables name = none ∧ fallback = some u) := by
  have looked : outcome (Eval.variableOf name) w = (.ok (Assoc.get? w.variables name), w) := rfl
  rw [Source.read, outcome_bind_ok looked]
  cases Assoc.get? w.variables name with
  | some text =>
    constructor
    · rintro ⟨⟩
      exact .inl ⟨text, rfl, rfl⟩
    · rintro (⟨_, ⟨⟩, rfl⟩ | ⟨⟨⟩, _⟩)
      rfl
  | none =>
    cases fallback with
    | some value =>
      constructor
      · rintro ⟨⟩
        exact .inr ⟨rfl, rfl⟩
      · rintro (⟨_, ⟨⟩, _⟩ | ⟨_, ⟨⟩⟩)
        rfl
    | none =>
      constructor
      · rintro ⟨⟩
      · rintro (⟨_, ⟨⟩, _⟩ | ⟨_, ⟨⟩⟩)

theorem outcome_lookup (f : FileName) (w : World) :
    (outcome <| Eval.entry? f) w = (match w.find f with
      | .nothing => .ok none
      | .entry e => .ok (some e)
      | .nameTooLong =>
        .error (.system ("[Errno 36] File name too long: " ++ Text.quoted f.toString)), w) := by
  have looked : outcome (get : Eval World) w = (.ok w, w) := rfl
  rw [ Eval.entry?, outcome_bind_ok looked]
  cases w.find f <;> rfl

theorem outcome_text (f : FileName) (w : World) :
    outcome (Eval.text? f) w = (match w.find f with
      | .nameTooLong =>
        .error (.system ("[Errno 36] File name too long: " ++ Text.quoted f.toString))
      | .entry (.file bytes) => match Utf8.decode bytes with
        | .ok decoded => .ok (some (String.ofList (Eval.lineFeeds decoded.toList)))
        | .error fault => .error (.undecodable fault)
      | _ => .ok none, w) := by
  rw [Eval.text?, Eval.bytes?, outcome_bind, outcome_bind, outcome_lookup]
  rcases w.find f with _ | _ | bytes | _
  · rfl
  · rfl
  · show outcome (Eval.decoded bytes >>= _) w = _
    rw [outcome_bind, Eval.decoded]
    dsimp only
    cases Utf8.decode bytes <;> rfl
  · rfl

theorem bytes_eq_ok {f : FileName} {w : World} {bytes : List UInt8} :
    (outcome (Eval.bytes? f) w).1 = .ok (some bytes) ↔ w.find f = .entry (.file bytes) := by
  rw [Eval.bytes?, outcome_bind, outcome_lookup]
  rcases w.find f with _ | _ | _ | _
  · exact ⟨nofun, nofun⟩
  · exact ⟨nofun, nofun⟩
  · constructor <;> rintro ⟨⟩ <;> rfl
  · exact ⟨nofun, nofun⟩

theorem decoded_eq_ok {bytes : List UInt8} {w : World} {text : String} :
    (outcome (Eval.decoded bytes) w).1 = .ok text ↔ ∃ decoded,
      Utf8.decode bytes = .ok decoded ∧
      text = String.ofList (Eval.lineFeeds decoded.toList) := by
  unfold Eval.decoded
  cases Utf8.decode bytes with
  | ok decoded =>
    constructor
    · rintro ⟨⟩
      exact ⟨decoded, rfl, rfl⟩
    · rintro ⟨_, ⟨⟩, rfl⟩
      rfl
  | error fault =>
    constructor
    · rintro ⟨⟩
    · rintro ⟨_, ⟨⟩, _⟩

theorem text_eq_ok {f : FileName} {w : World} {text : String} :
    (outcome (Eval.text? f) w).1 = .ok (some text) ↔ ∃ bytes decoded,
      w.find f = .entry (.file bytes) ∧ Utf8.decode bytes = .ok decoded ∧
      text = String.ofList (Eval.lineFeeds decoded.toList) := by
  rw [Eval.text?, (ReadOnly.bytes? f).bind_eq_ok]
  constructor
  · rintro ⟨_ | bytes, found, read⟩
    · cases read
    · obtain ⟨text', decodes, ⟨⟩⟩ := (ReadOnly.decoded bytes).bind_eq_ok.1 read
      obtain ⟨decoded, hd, same⟩ := decoded_eq_ok.1 decodes
      exact ⟨bytes, decoded, bytes_eq_ok.1 found, hd, same⟩
  · rintro ⟨bytes, decoded, found, hd, rfl⟩
    refine ⟨some bytes, bytes_eq_ok.2 found, (ReadOnly.decoded bytes).bind_eq_ok.2 ?_⟩
    exact ⟨_, decoded_eq_ok.2 ⟨decoded, hd, rfl⟩, rfl⟩

theorem file_eq_ok {path : String} {w : World} {u : Value} :
    (outcome (Source.file path).read w).1 = .ok u ↔
      ∃ text, w.Holds path text ∧ u = .text (Text.strip text) := by
  rw [Source.read, (ReadOnly.expandHome _).bind_eq_ok]
  constructor
  · rintro ⟨f, expanded, read⟩
    obtain ⟨found, read, ends⟩ := (ReadOnly.text? f).bind_eq_ok.1 read
    cases found with
    | none => cases ends
    | some text =>
      obtain ⟨bytes, decoded, holds⟩ := text_eq_ok.1 read
      exact ⟨text, ⟨f, bytes, decoded, expanded, holds⟩, (Except.ok.inj ends).symm⟩
  · rintro ⟨text, ⟨f, bytes, decoded, expanded, holds⟩, rfl⟩
    refine ⟨f, expanded, (ReadOnly.text? f).bind_eq_ok.2 ?_⟩
    exact ⟨some text, text_eq_ok.2 ⟨bytes, decoded, holds⟩, rfl⟩

/-! ## Entries -/

/-- An attribute gives what the value of an entry stands for, and fails if that is nothing. -/
structure Rereads (a : Attribute) (v : Value) : Prop where
  readOnly : ReadOnly a.evaluate
  gives : ∀ w u, (outcome a.evaluate w).1 = .ok u ↔ Means w v u

theorem means_variable {es : Dict} {name : Value} (source : Dict.getText? es "$env" = some name)
    (w : World) (u : Value) :
    (outcome (Source.setting name.display (Dict.getText? es "default")).read w).1 = .ok u ↔
      Means w (.dict es) u := by
  rw [variable_eq_ok]
  constructor
  · rintro (⟨text, current, rfl⟩ | ⟨current, fallback⟩)
    · exact .set source current
    · exact .unset source current fallback
  · intro h
    cases h with
    | set same current =>
      cases source.symm.trans same
      exact .inl ⟨_, current, rfl⟩
    | unset same current fallback =>
      cases source.symm.trans same
      exact .inr ⟨current, fallback⟩
    | file other => cases source.symm.trans other
    | mapping other => cases source.symm.trans other
    | itself other => cases other

theorem means_file {es : Dict} {path : Value} (plain : Dict.getText? es "$env" = none)
    (source : Dict.getText? es "$file" = some path) (w : World) (u : Value) :
    (outcome (Source.file path.display).read w).1 = .ok u ↔ Means w (.dict es) u := by
  rw [file_eq_ok]
  constructor
  · rintro ⟨text, current, rfl⟩
    exact .file plain source current
  · intro h
    cases h with
    | set other => cases plain.symm.trans other
    | unset other => cases plain.symm.trans other
    | file _ same current =>
      cases source.symm.trans same
      exact ⟨_, current, rfl⟩
    | mapping _ other => cases source.symm.trans other
    | itself other => cases other

theorem means_mapping {es : Dict} (plain : Dict.getText? es "$env" = none)
    (unfiled : Dict.getText? es "$file" = none) (w : World) (u : Value) :
    u = .dict es ↔ Means w (.dict es) u := by
  constructor
  · rintro rfl
    exact .mapping plain unfiled
  · intro h
    cases h with
    | set other => cases plain.symm.trans other
    | unset other => cases plain.symm.trans other
    | file _ other => cases unfiled.symm.trans other
    | mapping => rfl
    | itself => rfl

theorem means_itself {v : Value} (other : v.dict? = none) (w : World) (u : Value) :
    u = v ↔ Means w v u := by
  constructor
  · rintro rfl
    exact .itself other
  · intro h
    cases h with
    | itself => rfl
    | _ => cases other

theorem rereads_source (key : String) {source : Source} {v : Value}
    (h : ∀ w u, (outcome source.read w).1 = .ok u ↔ Means w v u) :
    Rereads (.ofSource key source) v :=
  ⟨ReadOnly.read source, h⟩

theorem rereads_literal (key : String) {v : Value} (h : ∀ w u, u = v ↔ Means w v u) :
    Rereads (.literal key v) v where
  readOnly _ := rfl
  gives w u := by
    rw [← h]
    constructor
    · rintro ⟨⟩
      rfl
    · rintro rfl
      rfl

variable [Platform]

/-- The attribute that an entry declares gives what the entry stands for. -/
theorem rereads_declaration {location : String} {entry : Value × Value} {a : Attribute}
    (h : Document.declaration location entry = .ok a) :
    a.key = entry.1.display ∧ Rereads a entry.2 := by
  obtain ⟨key, v⟩ := entry
  obtain ⟨name, written, h⟩ := Outcome.bind_eq_ok.1 h
  obtain ⟨-, rfl⟩ := Value.asText_eq_ok.1 written
  obtain ⟨found, described, h⟩ := Outcome.bind_eq_ok.1 h
  cases v with
  | dict es =>
    rw [Document.source?] at described
    cases named : Dict.getText? es "$env" with
    | some name =>
      rw [named] at described
      obtain ⟨text, shown, described⟩ := Outcome.bind_eq_ok.1 described
      obtain ⟨-, rfl⟩ := Value.asText_eq_ok.1 shown
      cases described
      cases h
      exact ⟨rfl, rereads_source _ (means_variable named)⟩
    | none =>
      cases filed : Dict.getText? es "$file" with
      | some path =>
        rw [named, filed] at described
        obtain ⟨text, shown, described⟩ := Outcome.bind_eq_ok.1 described
        obtain ⟨-, rfl⟩ := Value.asText_eq_ok.1 shown
        split at described
        · cases described
        · cases described
          cases h
          exact ⟨rfl, rereads_source _ (means_file named filed)⟩
      | none =>
        rw [named, filed] at described
        cases described
        cases h
        exact ⟨rfl, rereads_literal _ (means_mapping named filed)⟩
  | _ =>
    cases described
    cases h
    exact ⟨rfl, rereads_literal _ (means_itself rfl)⟩

/-! ## Attributes of documents -/

/-- An attribute at some segments is declared by an entry of a document. -/
def Declared (doc : Value) (scope : List String) (a : Attribute) : Prop :=
  ∃ entry, Document.Declares doc scope entry ∧ a.key = entry.1.display ∧ Rereads a entry.2

/-- What a node is made of. -/
theorem node_eq_ok {location : String} {v : Value} {n : Node}
    (h : Document.node location v = .ok n) : ∃ entries declared routes children,
      v = .dict entries ∧ Document.part? entries "attributes" = some declared ∧
      declared.mapM (Document.declaration location) = .ok n.attributes ∧
      Document.part? entries "routes" = some routes ∧
      Document.nodes location routes = .ok children ∧ n.children = Assoc.ofList children := by
  rw [Document.node.eq_def] at h
  split at h
  · rename_i entries
    obtain ⟨-, -, h⟩ := Outcome.bind_eq_ok.1 h
    split at h
    · rename_i declared own
      obtain ⟨attributes, hattributes, h⟩ := Outcome.bind_eq_ok.1 h
      split at h
      · cases h
      · rename_i routes below
        obtain ⟨children, hchildren, h⟩ := Outcome.bind_eq_ok.1 h
        dsimp only at h
        split_ifs at h
        split at h
        · cases h
        · cases h
          exact ⟨entries, declared, routes, children, rfl, own, hattributes, below, hchildren, rfl⟩
    · cases h
  · cases h

mutual

/-- The attributes of a node are declared by the document that the node is part of. -/
theorem throughout_node {doc : Value} {location : String} {scope : List String} {v : Value}
    {n : Node} (h : Document.node location v = .ok n)
    (part : ∀ down entry, Document.Declares v down entry →
      Document.Declares doc (scope ++ down) entry) : Throughout (Declared doc) scope n := by
  obtain ⟨entries, declared, routes, children, mapping, own, attributes, below, nodes, same⟩ :=
    node_eq_ok h
  rw [mapping] at part
  refine .node ?_ ?_
  · intro a ha
    obtain ⟨entry, hentry, declaration⟩ := Outcome.exists_of_mem_mapM attributes a ha
    refine ⟨entry, ?_, rereads_declaration declaration⟩
    simpa using part [] entry (.here own hentry)
  · rw [same]
    intro c hc
    refine throughout_nodes nodes ?_ c (Assoc.mem_ofList hc)
    exact fun segment v hv down entry declares => part _ entry (.inside below hv declares)
termination_by sizeOf v
decreasing_by exact mapping ▸ Document.sizeOf_lt_of_part? below

theorem throughout_nodes {doc : Value} {location : String} {scope : List String} {routes : Dict}
    {children : List (String × Node)} (h : Document.nodes location routes = .ok children)
    (part : ∀ segment v, (segment, v) ∈ routes → ∀ down entry, Document.Declares v down entry →
      Document.Declares doc (scope ++ segment.display :: down) entry) :
    ∀ c ∈ children, Throughout (Declared doc) (scope ++ [c.1]) c.2 := by
  match routes, h, part with
  | [], h, part =>
    rw [Document.nodes] at h
    cases h
    exact fun c hc => absurd hc List.not_mem_nil
  | (segment, v) :: rest, h, part =>
    rw [Document.nodes] at h
    obtain ⟨text, shown, h⟩ := Outcome.bind_eq_ok.1 h
    obtain ⟨-, rfl⟩ := Value.asText_eq_ok.1 shown
    obtain ⟨child, hchild, h⟩ := Outcome.bind_eq_ok.1 h
    obtain ⟨others, hothers, h⟩ := Outcome.bind_eq_ok.1 h
    cases h
    intro c hc
    rcases List.mem_cons.1 hc with rfl | hc
    · refine throughout_node hchild fun down entry declares => ?_
      rw [List.append_assoc]
      exact part segment v List.mem_cons_self down entry declares
    · refine throughout_nodes hothers ?_ c hc
      exact fun segment v hv => part segment v (List.mem_cons_of_mem _ hv)
termination_by sizeOf routes

end

/-- The attributes of a tree are declared by its document. -/
theorem throughout_tree {doc : Value} {t : SchemaTree} (h : Document.tree doc = .ok t) :
    Throughout (Declared doc) [] t.root := by
  cases doc with
  | dict entries =>
    obtain ⟨-, -, h⟩ := Outcome.bind_eq_ok.1 h
    dsimp only at h
    split_ifs at h
    obtain ⟨root, node, h⟩ := Outcome.bind_eq_ok.1 h
    cases h
    refine throughout_node node fun down entry declares => ?_
    cases declares with
    | here own h =>
      rw [Document.part?_erase_root entries (by decide)] at own
      exact .here own h
    | inside own h rest =>
      rw [Document.part?_erase_root entries (by decide)] at own
      exact .inside own h rest
  | _ => cases h

end RouteSchema
