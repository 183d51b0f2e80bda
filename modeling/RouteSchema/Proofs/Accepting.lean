import RouteSchema.Platform.Usual
import RouteSchema.Proofs.Keying
import RouteSchema.Proofs.Reading
import RouteSchema.Proofs.Wording

/-!
# The grammar of documents

A document is read node by node, and the first node that is malformed ends the reading. Which
documents are read to the end is told from their nodes alone, each of them for itself.

* `Document.NodeForm` tells what a node must be, whatever stands below it.
* `node_eq_ok_iff`: what a node is read as.
* `tree_accepts`: a document describes a tree exactly if all its nodes have the form of nodes, and
  every text in them that is asked for exists.
-/

namespace RouteSchema

namespace Document

/-- The entries of a mapping by the texts of their keys. -/
def byText (entries : Dict) : Assoc String Value := entries.map fun e => (e.1.display, e.2)

/-- What stands under a key is a mapping, or any empty or zero value. -/
def IsPart (entries : Dict) (key : String) : Prop :=
  ∀ v, Dict.getText? entries key = some v → v.truthy = true → ∃ part, v = .dict part

/-- The value of an attribute refers to a file without naming one. -/
def NamesNoFile (v : Value) : Prop :=
  ∃ es path, v = .dict es ∧ Dict.getText? es "$env" = none ∧
    Dict.getText? es "$file" = some path ∧ path.display = ""

/-- What a node must be, whatever stands below it. -/
structure NodeForm (entries : Dict) : Prop where
  keys : ∀ e ∈ entries, ∃ key ∈ nodeKeys, e.1 = .text key
  attributes : IsPart entries "attributes"
  routes : IsPart entries "routes"
  files : ∀ declared, Dict.getText? entries "attributes" = some (.dict declared) →
    ∀ e ∈ declared, ¬NamesNoFile e.2
  endpoint : ∀ v, Dict.getText? entries "endpoint" = some v → v = .null ∨ ∃ id, v = .text id
  owner : ∀ v, Dict.getText? entries "method" = some v →
    ∃ id, Dict.getText? entries "endpoint" = some (.text id)
  method : ∀ v, Dict.getText? entries "method" = some v →
    v = .null ∨ ∃ s m, v = .text s ∧ Text.upper s = Method.verb m

/-- The documents that describe trees: a mapping with a root address, and nothing but nodes in and
below what else it holds. -/
inductive Accepted : Value → Prop
  | document {entries : Dict} {address : String}
      (keys : ∀ e ∈ entries, ∃ key ∈ rootKeys, e.1 = .text key)
      (root : Dict.getText? entries "root" = some (.text address)) (nonempty : address ≠ "")
      (nodes : ∀ v, HasNode (.dict (Assoc.erase entries (.text "root"))) v →
        ∃ es, v = .dict es ∧ NodeForm es) : Accepted (.dict entries)

end Document

/-- A value is null, a truth value, a number, a text, a list or a mapping. -/
def Value.isPlain : Value → Bool
  | .null | .bool _ | .int _ | .float _ | .text _ | .list _ | .dict _ => true
  | .bytes _ | .date _ | .moment _ | .tuple _ | .set _ | .handle _ => false

/-! ## Parts of nodes -/

namespace Document

theorem isPart_iff {entries : Dict} {key : String} :
    IsPart entries key ↔ ∃ part, part? entries key = some part := by
  rw [IsPart, part?]
  cases Dict.getText? entries key with
  | none =>
    refine ⟨fun _ => ⟨[], rfl⟩, fun _ v found => ?_⟩
    cases found
  | some v =>
    cases full : v.truthy with
    | false =>
      constructor
      · intro _
        exact ⟨[], by simp [full]⟩
      · rintro - _ ⟨⟩ truthy
        exact absurd truthy (by simp [full])
    | true =>
      constructor
      · intro h
        obtain ⟨part, rfl⟩ := h v rfl full
        exact ⟨part, by simp [full, Value.dict?]⟩
      · rintro ⟨part, h⟩ _ ⟨⟩ -
        cases v with
        | dict es => exact ⟨es, rfl⟩
        | _ => simp [full, Value.dict?] at h

theorem allows_iff {allowed : List String} {key : Value} :
    allows allowed key = true ↔ ∃ k ∈ allowed, key = .text k := by
  rw [allows, List.any_eq_true]
  refine exists_congr fun k => and_congr_right fun _ => ⟨Value.eq_of_beq_text, ?_⟩
  rintro rfl
  simp

theorem checkKeys_eq_ok_iff [Platform] {entries : Dict} {allowed : List String} {location : String} :
    checkKeys entries allowed location = .ok () ↔
      ∀ e ∈ entries, ∃ key ∈ allowed, e.1 = .text key := by
  have known : (Assoc.keys entries).filter (!allows allowed ·) = [] ↔
      ∀ e ∈ entries, ∃ key ∈ allowed, e.1 = .text key := by
    simp only [List.filter_eq_nil_iff, Assoc.keys, List.forall_mem_map, Bool.not_eq_true',
      Bool.not_eq_false, allows_iff]
  rw [← known]
  constructor
  · intro h
    obtain ⟨unknown, texts, h⟩ := Outcome.bind_eq_ok.1 h
    split at h
    · rename_i none
      obtain ⟨-, rfl⟩ := Value.mapM_asText_eq_ok_iff.1 texts
      exact List.map_eq_nil_iff.1 (List.isEmpty_iff.1 none)
    · cases h
  · intro none
    rw [checkKeys, none]
    rfl

/-! ## Reading a node -/

/-- The routes of a node, with what they describe below a location. -/
theorem nodes_eq_ok_iff [Platform] {location : String} {routes : Dict}
    {children : List (String × Node)} :
    nodes location routes = .ok children ↔
      (∀ e ∈ routes, e.1.HasText) ∧
        List.Forall₂ (fun e c => c.1 = e.1.display ∧
          node (childLocation location e.1.display) e.2 = .ok c.2) routes children := by
  induction routes generalizing children with
  | nil =>
    rw [nodes, List.forall₂_nil_left_iff]
    exact ⟨fun h => ⟨List.forall_mem_nil _, (Except.ok.inj h).symm⟩, fun h => congrArg _ h.2.symm⟩
  | cons e rest ih =>
    obtain ⟨key, v⟩ := e
    rw [nodes, Outcome.bind_eq_ok, List.forall₂_cons_left_iff, List.forall_mem_cons]
    constructor
    · rintro ⟨segment, shown, h⟩
      obtain ⟨has, rfl⟩ := Value.asText_eq_ok.1 shown
      obtain ⟨child, hchild, h⟩ := Outcome.bind_eq_ok.1 h
      obtain ⟨others, hothers, h⟩ := Outcome.bind_eq_ok.1 h
      cases h
      obtain ⟨have_texts, parallel⟩ := ih.1 hothers
      exact ⟨⟨has, have_texts⟩, (key.display, child), others, ⟨rfl, hchild⟩, parallel, rfl⟩
    · rintro ⟨⟨has, have_texts⟩, ⟨_, child⟩, others, ⟨rfl, hchild⟩, parallel, rfl⟩
      exact ⟨key.display, has.asText, Outcome.bind_eq_ok.2 ⟨child, hchild,
        Outcome.bind_eq_ok.2 ⟨others, ih.2 ⟨have_texts, parallel⟩, rfl⟩⟩⟩

/-- The identifier and the method of a node, as its entries give them. -/
inductive Labelled (entries : Dict) : Option String → Option Method → Prop
  | route (unnamed : (Dict.getText? entries "endpoint").getD .null = .null)
      (plain : Dict.getText? entries "method" = none) : Labelled entries none none
  | endpoint {id : String} {method : Option Method}
      (named : Dict.getText? entries "endpoint" = some (.text id))
      (valid : Node.methodField ((Dict.getText? entries "method").getD .null) = .ok method) :
      Labelled entries (some id) method

theorem Labelled.endpoint_eq {entries : Dict} {id : Option String} {m : Option Method}
    (h : Labelled entries id m) : id = (Dict.getText? entries "endpoint").bind Value.text? := by
  cases h with
  | route unnamed =>
    cases found : Dict.getText? entries "endpoint" with
    | none => rfl
    | some v =>
      rw [found] at unnamed
      cases unnamed
      rfl
  | endpoint named =>
    rw [named]
    rfl

theorem fields_eq_ok_iff {identifier method : Value} {id : Option String} {m : Option Method} :
    Node.fields identifier method = .ok (id, m) ↔
      Node.identifierField identifier = .ok id ∧ Node.methodField method = .ok m := by
  rw [Node.fields]
  cases Node.identifierField identifier <;> cases Node.methodField method <;> simp

/-- The checks of the identifier and the method of a node. -/
theorem labelled_iff {entries : Dict} {id : Option String} {m : Option Method} :
    Labelled entries id m ↔
      ¬(!((Dict.getText? entries "endpoint").getD .null == .null) &&
        ((Dict.getText? entries "endpoint").getD .null).text?.isNone) = true ∧
      ¬((Dict.getText? entries "endpoint").getD .null == .null &&
        (Dict.getText? entries "method").isSome) = true ∧
      Node.fields ((Dict.getText? entries "endpoint").getD .null)
        ((Dict.getText? entries "method").getD .null) = .ok (id, m) := by
  rw [fields_eq_ok_iff]
  constructor
  · rintro (⟨unnamed, plain⟩ | ⟨named, valid⟩)
    · rw [unnamed, plain]
      exact ⟨by simp [beq_null_iff], by simp, rfl, rfl⟩
    · rw [named]
      refine ⟨by simp [Value.text?], ?_, rfl, valid⟩
      simp [beq_null_iff]
  · rintro ⟨named, placed, identifier, method⟩
    cases found : (Dict.getText? entries "endpoint").getD .null with
    | null =>
      rw [found] at identifier placed
      cases identifier
      have plain : Dict.getText? entries "method" = none := by simpa [beq_null_iff] using placed
      rw [plain] at method
      cases method
      exact .route found plain
    | text s =>
      rw [found] at identifier
      cases identifier
      refine .endpoint ?_ method
      cases absent : Dict.getText? entries "endpoint" with
      | none => simp [absent] at found
      | some v => simpa [absent] using found
    | _ =>
      rw [found] at named
      simp [Value.text?, beq_null_iff] at named

/-- What a node is read as: its entries pass every check, and its children are those of its
routes. -/
theorem node_eq_ok_iff [Platform] {location : String} {entries : Dict} {n : Node} :
    node location (.dict entries) = .ok n ↔ ∃ declared routes children,
      (∀ e ∈ entries, ∃ key ∈ nodeKeys, e.1 = .text key) ∧
      part? entries "attributes" = some declared ∧
      declared.mapM (declaration location) = .ok n.attributes ∧
      part? entries "routes" = some routes ∧ nodes location routes = .ok children ∧
      n.children = Assoc.ofList children ∧ Labelled entries n.endpoint n.method := by
  rw [node.eq_def]
  constructor
  · intro h
    obtain ⟨⟨⟩, keys, h⟩ := Outcome.bind_eq_ok.1 h
    split at h
    · rename_i declared own
      obtain ⟨attributes, hattributes, h⟩ := Outcome.bind_eq_ok.1 h
      split at h
      · cases h
      · rename_i routes under
        obtain ⟨children, hchildren, h⟩ := Outcome.bind_eq_ok.1 h
        dsimp only at h
        split_ifs at h with misnamed misplaced
        split at h
        · cases h
        · rename_i id method valid
          cases h
          exact ⟨declared, routes, children, checkKeys_eq_ok_iff.1 keys, own, hattributes, under,
            hchildren, rfl, labelled_iff.2 ⟨misnamed, misplaced, valid⟩⟩
    · cases h
  · obtain ⟨attributes, nodes, endpoint, method⟩ := n
    rintro ⟨declared, routes, children, keys, own, hattributes, under, hchildren, same, labelled⟩
    refine Outcome.bind_eq_ok.2 ⟨(), checkKeys_eq_ok_iff.2 keys, ?_⟩
    rw [own]
    refine Outcome.bind_eq_ok.2 ⟨attributes, hattributes, ?_⟩
    split
    · rename_i missing
      cases under.symm.trans missing
    · rename_i found
      cases under.symm.trans found
      refine Outcome.bind_eq_ok.2 ⟨children, hchildren, ?_⟩
      obtain ⟨named, placed, valid⟩ := labelled_iff.1 labelled
      dsimp only
      rw [if_neg named, if_neg placed, valid, ← same]

theorem endpoint_of_node [Platform] {location : String} {entries : Dict} {n : Node}
    (h : node location (.dict entries) = .ok n) :
    n.endpoint = (Dict.getText? entries "endpoint").bind Value.text? := by
  obtain ⟨-, -, -, -, -, -, -, -, -, labelled⟩ := node_eq_ok_iff.1 h
  exact labelled.endpoint_eq

/-! ## The form of nodes -/

/-- Some list stands in a relation to a list exactly if every item has something that does. -/
theorem exists_forall₂_iff {α β : Type} {R : α → β → Prop} {xs : List α} :
    (∃ ys, List.Forall₂ R xs ys) ↔ ∀ x ∈ xs, ∃ y, R x y := by
  induction xs with
  | nil => exact ⟨fun _ _ h => absurd h List.not_mem_nil, fun _ => ⟨[], .nil⟩⟩
  | cons x xs ih =>
    rw [List.forall_mem_cons, ← ih]
    constructor
    · rintro ⟨_, _ | ⟨h, rest⟩⟩
      exact ⟨⟨_, h⟩, _, rest⟩
    · rintro ⟨⟨y, h⟩, ys, rest⟩
      exact ⟨y :: ys, .cons h rest⟩

theorem exists_source?_iff [Platform] {key location : String} {v : Value} :
    (∃ source, source? key location v = .ok source) ↔
      ¬NamesNoFile v ∧ ∀ w ∈ sourceTexts v, w.HasText := by
  cases v with
  | dict es =>
    rw [source?, sourceTexts]
    cases named : Dict.getText? es "$env" with
    | some name =>
      have unfiled : ¬NamesNoFile (.dict es) := by simp [NamesNoFile, named]
      rw [and_iff_right unfiled, List.forall_mem_singleton]
      constructor
      · rintro ⟨_, h⟩
        obtain ⟨text, shown, -⟩ := Outcome.bind_eq_ok.1 h
        exact (Value.asText_eq_ok.1 shown).1
      · exact fun has => ⟨_, Outcome.bind_eq_ok.2 ⟨_, has.asText, rfl⟩⟩
    | none =>
      cases filed : Dict.getText? es "$file" with
      | none => simp [NamesNoFile, filed]
      | some path =>
        have empty : NamesNoFile (.dict es) ↔ path.display = "" := by
          simp [NamesNoFile, named, filed]
        rw [empty, List.forall_mem_singleton]
        constructor
        · rintro ⟨_, h⟩
          obtain ⟨text, shown, h⟩ := Outcome.bind_eq_ok.1 h
          obtain ⟨has, rfl⟩ := Value.asText_eq_ok.1 shown
          split at h
          · cases h
          · exact ⟨mt beq_iff_eq.2 ‹_›, has⟩
        · rintro ⟨nonempty, has⟩
          exact ⟨some (.file path.display), Outcome.bind_eq_ok.2
            ⟨_, has.asText, if_neg (mt beq_iff_eq.1 nonempty)⟩⟩
  | _ => simp [source?, NamesNoFile, sourceTexts]

theorem exists_declaration_iff [Platform] {location : String} {e : Value × Value} :
    (∃ a, declaration location e = .ok a) ↔
      ¬NamesNoFile e.2 ∧ ∀ v ∈ entryTexts e, v.HasText := by
  obtain ⟨key, v⟩ := e
  rw [entryTexts, List.forall_mem_cons, ← and_left_comm,
    ← @exists_source?_iff _ key.display location]
  constructor
  · rintro ⟨a, h⟩
    obtain ⟨text, shown, h⟩ := Outcome.bind_eq_ok.1 h
    obtain ⟨has, rfl⟩ := Value.asText_eq_ok.1 shown
    obtain ⟨source, found, -⟩ := Outcome.bind_eq_ok.1 h
    exact ⟨has, source, found⟩
  · rintro ⟨has, _ | source, found⟩
    · exact ⟨_, Outcome.bind_eq_ok.2 ⟨_, has.asText, Outcome.bind_eq_ok.2 ⟨none, found, rfl⟩⟩⟩
    · exact ⟨_, Outcome.bind_eq_ok.2
        ⟨_, has.asText, Outcome.bind_eq_ok.2 ⟨some source, found, rfl⟩⟩⟩

theorem exists_ofVerb?_iff {s : String} :
    (∃ m, Method.ofVerb? s = some m) ↔ ∃ m, s = Method.verb m := by
  constructor
  · rintro ⟨m, h⟩
    rw [Method.ofVerb?] at h
    have same := List.find?_some h
    exact ⟨m, (beq_iff_eq.1 same).symm⟩
  · rintro ⟨m, rfl⟩
    exact ⟨m, by cases m <;> rfl⟩

theorem exists_methodField_iff {v : Value} (plain : v.isPlain = true) :
    (∃ m, Node.methodField v = .ok m) ↔
      v = .null ∨ ∃ s m, v = .text s ∧ Text.upper s = Method.verb m := by
  cases v with
  | null => simp [Node.methodField]
  | text s =>
    have valid : (∃ m, Node.methodField (.text s) = .ok m) ↔
        ∃ m, Method.ofVerb? (Text.upper s) = some m := by
      rw [Node.methodField]
      cases Method.ofVerb? (Text.upper s) <;> simp
    rw [valid, exists_ofVerb?_iff]
    simp
  | bytes | date | moment | tuple | set | handle => cases plain
  | _ =>
    constructor
    · rintro ⟨m, ⟨⟩⟩
    · simp

theorem exists_labelled_iff {entries : Dict}
    (plain : ∀ v, Dict.getText? entries "method" = some v → v.isPlain = true) :
    (∃ id m, Labelled entries id m) ↔
      (∀ v, Dict.getText? entries "endpoint" = some v → v = .null ∨ ∃ id, v = .text id) ∧
      (∀ v, Dict.getText? entries "method" = some v →
        ∃ id, Dict.getText? entries "endpoint" = some (.text id)) ∧
      ∀ v, Dict.getText? entries "method" = some v →
        v = .null ∨ ∃ s m, v = .text s ∧ Text.upper s = Method.verb m := by
  constructor
  · rintro ⟨id, m, ⟨unnamed, absent⟩ | ⟨named, valid⟩⟩
    · rw [absent]
      refine ⟨fun v hv => .inl ?_, nofun, nofun⟩
      rwa [hv] at unnamed
    · refine ⟨fun v hv => .inr ⟨_, (Option.some.inj (hv.symm.trans named))⟩, fun _ _ => ⟨_, named⟩,
        fun v hv => ?_⟩
      rw [hv] at valid
      exact (exists_methodField_iff (plain v hv)).1 ⟨m, valid⟩
  · rintro ⟨endpoint, owner, method⟩
    cases present : Dict.getText? entries "method" with
    | some v =>
      obtain ⟨id, named⟩ := owner v present
      obtain ⟨m, valid⟩ := (exists_methodField_iff (plain v present)).2 (method v present)
      exact ⟨some id, m, .endpoint named (by rw [present]; exact valid)⟩
    | none =>
      cases found : Dict.getText? entries "endpoint" with
      | none => exact ⟨none, none, .route (by rw [found]; rfl) present⟩
      | some v =>
        rcases endpoint v found with rfl | ⟨id, rfl⟩
        · exact ⟨none, none, .route (by rw [found]; rfl) present⟩
        · exact ⟨some id, none, .endpoint found (by rw [present]; rfl)⟩

/-- The texts in a node exist exactly if those in its attributes and those of its segments do. -/
theorem forall_nodeTexts_iff [Platform] {entries declared routes : Dict}
    (keys : ∀ e ∈ entries, ∃ key ∈ nodeKeys, e.1 = .text key)
    (own : part? entries "attributes" = some declared)
    (under : part? entries "routes" = some routes) :
    (∀ v ∈ nodeTexts entries, v.HasText) ↔
      (∀ e ∈ declared, ∀ v ∈ entryTexts e, v.HasText) ∧ ∀ e ∈ routes, e.1.HasText := by
  constructor
  · intro texts
    refine ⟨fun e he v text => texts v ?_, fun e he => texts e.1 ?_⟩
    · exact mem_nodeTexts_iff.2 (.inr (.inl ⟨declared, own, e, he, text⟩))
    · exact mem_nodeTexts_iff.2 (.inr (.inr ⟨routes, under, List.mem_map_of_mem he⟩))
  · rintro ⟨declares, segments⟩ v asked
    rcases mem_nodeTexts_iff.1 asked with key | ⟨_, own', e, he, text⟩ | ⟨_, under', key⟩
    · obtain ⟨e, he, rfl⟩ := List.mem_map.1 key
      obtain ⟨key, -, same⟩ := keys e he
      exact same ▸ Value.hasText_text key
    · cases own.symm.trans own'
      exact declares e he v text
    · cases under.symm.trans under'
      obtain ⟨e, he, rfl⟩ := List.mem_map.1 key
      exact segments e he

/-- A value is read as a node exactly if it has the form of one, its texts exist, and everything
under its routes is read as well. -/
theorem exists_node_iff [Platform] {location : String} {entries : Dict}
    (plain : ∀ v, Dict.getText? entries "method" = some v → v.isPlain = true) :
    (∃ n, node location (.dict entries) = .ok n) ↔
      (NodeForm entries ∧ ∀ v ∈ nodeTexts entries, v.HasText) ∧
        ∀ routes, part? entries "routes" = some routes →
          ∀ e ∈ routes, ∃ n, node (childLocation location e.1.display) e.2 = .ok n := by
  constructor
  · rintro ⟨n, h⟩
    obtain ⟨declared, routes, children, keys, own, attributes, under, nodes, -, labelled⟩ :=
      node_eq_ok_iff.1 h
    obtain ⟨endpoint, owner, method⟩ := (exists_labelled_iff plain).1 ⟨_, _, labelled⟩
    have declares : ∀ e ∈ declared, ¬NamesNoFile e.2 ∧ ∀ v ∈ entryTexts e, v.HasText :=
      fun e he => exists_declaration_iff.1
        (exists_forall₂_iff.1 ⟨_, Outcome.mapM_eq_ok.1 attributes⟩ e he)
    obtain ⟨segments, parallel⟩ := nodes_eq_ok_iff.1 nodes
    refine ⟨⟨⟨keys, isPart_iff.2 ⟨_, own⟩, isPart_iff.2 ⟨_, under⟩, ?_, endpoint, owner, method⟩,
      (forall_nodeTexts_iff keys own under).2 ⟨fun e he => (declares e he).2, segments⟩⟩, ?_⟩
    · exact fun es found e he => (declares e ((mem_part_iff own).2 ⟨es, found, he⟩)).1
    · intro routes' found e he
      cases under.symm.trans found
      obtain ⟨c, -, read⟩ := exists_forall₂_iff.1 ⟨_, parallel⟩ e he
      exact ⟨c.2, read⟩
  · rintro ⟨⟨form, texts⟩, below⟩
    obtain ⟨declared, own⟩ := isPart_iff.1 form.attributes
    obtain ⟨routes, under⟩ := isPart_iff.1 form.routes
    obtain ⟨inside, segments⟩ := (forall_nodeTexts_iff form.keys own under).1 texts
    have declares : ∀ e ∈ declared, ∃ a, declaration location e = .ok a := fun e he => by
      obtain ⟨es, found, mem⟩ := (mem_part_iff own).1 he
      exact exists_declaration_iff.2 ⟨form.files es found e mem, inside e he⟩
    obtain ⟨attributes, hattributes⟩ := exists_forall₂_iff.2 declares
    have each : ∀ e ∈ routes, ∃ c : String × Node,
        c.1 = e.1.display ∧ node (childLocation location e.1.display) e.2 = .ok c.2 :=
      fun e he => by
        obtain ⟨n, read⟩ := below routes under e he
        exact ⟨(e.1.display, n), rfl, read⟩
    obtain ⟨children, hchildren⟩ := exists_forall₂_iff.2 each
    obtain ⟨id, m, labelled⟩ :=
      (exists_labelled_iff plain).2 ⟨form.endpoint, form.owner, form.method⟩
    exact ⟨⟨attributes, Assoc.ofList children, id, m⟩, node_eq_ok_iff.2 ⟨declared, routes, children,
      form.keys, own, Outcome.mapM_eq_ok.2 hattributes, under,
      nodes_eq_ok_iff.2 ⟨segments, hchildren⟩, rfl, labelled⟩⟩

/-! ## Documents -/

/-- A method is missing, or a plain value, in every node of a document. -/
def PlainMethods : Value → Prop :=
  EveryNode fun entries => ∀ v, Dict.getText? entries "method" = some v → v.isPlain = true

/-- A value is read as a node exactly if all its nodes have the form of nodes, and the texts in them
exist. -/
theorem node_accepts [Platform] {location : String} {v : Value} (plain : PlainMethods v) :
    (∃ n, node location v = .ok n) ↔
      (∀ w, HasNode v w → ∃ es, w = .dict es ∧ NodeForm es) ∧ Worded v := by
  induction v using node_induction generalizing location with
  | other v leaf =>
    constructor
    · rintro ⟨n, h⟩
      obtain ⟨entries, -, -, -, rfl, -⟩ := node_eq_ok h
      cases leaf
    · rintro ⟨h, -⟩
      obtain ⟨es, rfl, -⟩ := h v (.itself v)
      cases leaf
  | mapping entries ih =>
    have below : ∀ routes, part? entries "routes" = some routes → ∀ e ∈ routes,
        ((∃ n, node (childLocation location e.1.display) e.2 = .ok n) ↔
          (∀ w, HasNode e.2 w → ∃ es, w = .dict es ∧ NodeForm es) ∧ Worded e.2) :=
      fun routes under e he =>
        ih routes under e he ((everyNode_dict_iff.1 plain).2 routes under e he)
    rw [exists_node_iff (everyNode_dict_iff.1 plain).1]
    constructor
    · rintro ⟨⟨form, texts⟩, rest⟩
      refine ⟨fun w hw => ?_, everyNode_dict_iff.2 ⟨texts, fun routes under e he =>
        ((below routes under e he).1 (rest routes under e he)).2⟩⟩
      rcases hasNode_dict_iff.1 hw with rfl | ⟨routes, under, e, he, inside⟩
      · exact ⟨entries, rfl, form⟩
      · exact ((below routes under e he).1 (rest routes under e he)).1 w inside
    · rintro ⟨h, worded⟩
      obtain ⟨es, same, form⟩ := h _ (.itself _)
      cases same
      obtain ⟨texts, inside⟩ := everyNode_dict_iff.1 worded
      refine ⟨⟨form, texts⟩, fun routes under e he => (below routes under e he).2
        ⟨fun w node => ?_, inside routes under e he⟩⟩
      exact h w (hasNode_dict_iff.2 (.inr ⟨routes, under, e, he, node⟩))

theorem plainMethods_erase_root {entries : Dict} (plain : PlainMethods (.dict entries)) :
    PlainMethods (.dict (Assoc.erase entries (.text "root"))) := by
  refine plain.erase_root fun own => ?_
  rwa [getText?_erase entries (by decide)]

/-- What a document is read as: its root address, and the node that the rest of it describes. -/
theorem tree_eq_ok_iff [Platform] {doc : Value} {t : SchemaTree} : tree doc = .ok t ↔
    ∃ entries, doc = .dict entries ∧ (∀ e ∈ entries, ∃ key ∈ rootKeys, e.1 = .text key) ∧
      Dict.getText? entries "root" = some (.text t.address) ∧ t.address ≠ "" ∧
      node "/" (.dict (Assoc.erase entries (.text "root"))) = .ok t.root := by
  constructor
  · intro h
    cases doc with
    | dict entries =>
      obtain ⟨⟨⟩, keys, h⟩ := Outcome.bind_eq_ok.1 h
      dsimp only at h
      split_ifs at h with empty
      obtain ⟨root, read, h⟩ := Outcome.bind_eq_ok.1 h
      cases h
      refine ⟨entries, rfl, checkKeys_eq_ok_iff.1 keys, ?_, mt beq_iff_eq.2 empty, read⟩
      cases found : Dict.getText? entries "root" with
      | none => simp [found] at empty
      | some v =>
        cases v with
        | text address => rfl
        | _ => simp [found, Value.text?] at empty
    | _ => cases h
  · rintro ⟨entries, rfl, keys, root, nonempty, read⟩
    refine Outcome.bind_eq_ok.2 ⟨(), checkKeys_eq_ok_iff.2 keys, ?_⟩
    rw [root]
    dsimp only [Option.bind_some, Value.text?, Option.getD_some]
    rw [if_neg (mt beq_iff_eq.1 nonempty)]
    exact Outcome.bind_eq_ok.2 ⟨t.root, read, rfl⟩

/-- The keys of a document are texts, so that those of the document without its root address are all
the keys that may have none. -/
theorem worded_of_erase_root [Platform] {entries : Dict}
    (keys : ∀ e ∈ entries, ∃ key ∈ rootKeys, e.1 = .text key)
    (worded : Worded (.dict (Assoc.erase entries (.text "root")))) : Worded (.dict entries) := by
  obtain ⟨own, below⟩ := everyNode_dict_iff.1 worded
  rw [part?_erase_root entries (by decide)] at below
  refine everyNode_dict_iff.2 ⟨fun v asked => ?_, below⟩
  rcases mem_nodeTexts_iff.1 asked with key | other
  · obtain ⟨e, he, rfl⟩ := List.mem_map.1 key
    obtain ⟨key, -, same⟩ := keys e he
    exact same ▸ Value.hasText_text key
  · refine own v (mem_nodeTexts_iff.2 (.inr ?_))
    rwa [part?_erase_root entries (by decide), part?_erase_root entries (by decide)]

/-- **A document describes a tree exactly if it is accepted and its texts exist.** Where they exist,
every other value is refused with a fault of a schema; otherwise the reading may also end with the
failure of a value in the document that has no text, and with nothing else. -/
theorem tree_accepts [Platform] {doc : Value} (plain : PlainMethods doc) :
    ((∃ t, tree doc = .ok t) ↔ Accepted doc ∧ Worded doc) ∧
    (Worded doc → ((∃ fault, tree doc = .error (.authoring fault)) ↔ ¬Accepted doc)) ∧
    ∀ f, tree doc = .error f → Fails doc f := by
  have described : (∃ t, tree doc = .ok t) ↔ Accepted doc ∧ Worded doc := by
    constructor
    · rintro ⟨t, h⟩
      obtain ⟨entries, rfl, keys, root, nonempty, read⟩ := tree_eq_ok_iff.1 h
      obtain ⟨nodes, worded⟩ := (node_accepts (plainMethods_erase_root plain)).1 ⟨t.root, read⟩
      exact ⟨.document keys root nonempty nodes, worded_of_erase_root keys worded⟩
    · rintro ⟨⟨keys, root, nonempty, nodes⟩, worded⟩
      obtain ⟨n, read⟩ :=
        (node_accepts (plainMethods_erase_root plain)).2 ⟨nodes, worded.erase_root⟩
      exact ⟨⟨_, n⟩, tree_eq_ok_iff.2 ⟨_, rfl, keys, root, nonempty, read⟩⟩
  refine ⟨described, fun worded => ?_, fun f => fails_tree⟩
  rw [← and_iff_left worded (a := Accepted doc), ← described]
  cases read : tree doc with
  | ok t => simp
  | error f =>
    obtain ⟨fault, rfl⟩ := (fails_tree read).malformed_of_worded worded
    simp

/-- A document with an empty list in place of attributes, a number for a segment, and a route whose
identifier is null. -/
def sketch : Value := .dict
  [(.text "routes", .dict
      [(.int 7, .dict [(.text "method", .text "Put"), (.text "endpoint", .text "seven")]),
        (.text "old", .dict [(.text "endpoint", .null), (.text "attributes", .list [])])]),
    (.text "root", .text "https://svc.com")]

theorem plainMethods_sketch : PlainMethods sketch := by
  simp [sketch, PlainMethods, everyNode_dict_iff, part?, Value.truthy, Value.dict?, Value.isPlain,
    List.forall_mem_cons, -List.mem_cons, -Prod.forall]

theorem tree_accepts_sketch :
    let _ : Platform := .usual
    PlainMethods sketch ∧ (∃ t, tree sketch = .ok t) ∧ Accepted sketch := by
  intro _
  obtain ⟨t, read, -⟩ : ∃ t, @tree .usual sketch = .ok t ∧
      Assoc.keys t.root.children = ["7", "old"] :=
    Outcome.exists_of_toOption_map (by decide +kernel)
  exact ⟨plainMethods_sketch, ⟨t, read⟩, ((tree_accepts plainMethods_sketch).1.1 ⟨t, read⟩).1⟩

/-- Attributes that refer to a variable by a number of 4301 digits. -/
def unwrittenNode : Dict :=
  [(.text "attributes", .dict [(.text "token", .dict [(.text "$env", .long)])])]

/-- A document with these attributes, and nothing else. -/
def unwritten : Value := .dict ((.text "root", .text "https://svc.com") :: unwrittenNode)

theorem part?_unwrittenNode :
    part? unwrittenNode "attributes" = some [(.text "token", .dict [(.text "$env", .long)])] := by
  simp [part?, unwrittenNode, Value.truthy, Value.dict?]

theorem nodeForm_unwrittenNode : NodeForm unwrittenNode := by
  refine ⟨by simp [unwrittenNode, nodeKeys], isPart_iff.2 ⟨_, part?_unwrittenNode⟩,
    isPart_iff.2 ⟨[], by simp [part?, unwrittenNode]⟩, fun es found e he => ?_,
    by simp [unwrittenNode], by simp [unwrittenNode], by simp [unwrittenNode]⟩
  have mem := (mem_part_iff part?_unwrittenNode).2 ⟨es, found, he⟩
  cases List.mem_singleton.1 mem
  simp [NamesNoFile]

theorem erase_root_unwritten :
    Assoc.erase ((.text "root", .text "https://svc.com") :: unwrittenNode) (.text "root") =
      unwrittenNode := by
  simp [unwrittenNode, Assoc.erase]

theorem accepted_unwritten : Accepted unwritten := by
  have root : Dict.getText? ((.text "root", .text "https://svc.com") :: unwrittenNode) "root" =
      some (.text "https://svc.com") := by simp
  refine .document (by simp [unwrittenNode, rootKeys]) root (by decide) fun v node => ?_
  rw [erase_root_unwritten] at node
  rcases hasNode_dict_iff.1 node with rfl | ⟨routes, under, e, he, -⟩
  · exact ⟨_, rfl, nodeForm_unwrittenNode⟩
  · simp [part?, unwrittenNode] at under
    simp [under] at he

/-- A document may be accepted and still describe no tree, and what is raised is no fault of a
schema. -/
theorem tree_breaks_unwritten :
    let _ : Platform := .usual
    PlainMethods unwritten ∧ Accepted unwritten ∧
      tree unwritten = .error (.wrongValue Value.tooManyDigits) := by
  intro _
  have own : checkKeys unwrittenNode nodeKeys "/" = .ok () :=
    checkKeys_eq_ok_iff.2 nodeForm_unwrittenNode.keys
  have unnamed : declaration "/" (.text "token", .dict [(.text "$env", .long)]) =
      .error (.wrongValue Value.tooManyDigits) := by
    refine Outcome.bind_eq_error.2 (.inr ⟨_, (Value.hasText_text _).asText, ?_⟩)
    refine Outcome.bind_eq_error.2 (.inl ?_)
    rw [source?, Dict.getText?_cons, if_pos rfl]
    exact Outcome.bind_eq_error.2 (.inl Value.asText_long)
  have read : node "/" (.dict unwrittenNode) = .error (.wrongValue Value.tooManyDigits) := by
    rw [node.eq_def]
    refine Outcome.bind_eq_error.2 (.inr ⟨(), own, ?_⟩)
    rw [part?_unwrittenNode]
    dsimp only
    rw [List.mapM_cons, unnamed]
    rfl
  refine ⟨?_, accepted_unwritten, ?_⟩
  · simp [unwritten, unwrittenNode, PlainMethods, everyNode_dict_iff, part?]
  · refine Outcome.bind_eq_error.2 (.inr ⟨(), checkKeys_eq_ok_iff.2 ?_, ?_⟩)
    · simp [unwrittenNode, rootKeys]
    · rw [erase_root_unwritten, read, Dict.getText?_cons, if_pos rfl]
      rfl

end Document

end RouteSchema
