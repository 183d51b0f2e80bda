import RouteSchema.Proofs.Accepting

/-!
# Routes of documents and children of trees

The routes of a node become its children, in their order and at the texts of their keys. Keys that
are different may have the same text, and the later one is then written over the earlier one without
a word.

* `Document.Mirrors`: a tree has a node for every route of a document that is kept.
* `Assoc.Parallel`: mappings that are written in parallel stay parallel.
* `tree_mirrors`: the routes that the tree of a document keeps, and when these are all of them.
* `tree_collapses`: two routes that become one child.
-/

namespace RouteSchema

namespace Document

/-- Routes by the texts of their keys, each written over those before it that have the same. -/
def written (routes : Dict) : Assoc String Value := Assoc.ofList (byText routes)

/-- A tree has a node for every node of a document: of the routes of each, those that are kept are
its children, in the same order. -/
inductive Mirrors (kept : Dict → Assoc String Value) : Value → Node → Prop
  | node {entries routes : Dict} {n : Node} (own : part? entries "routes" = some routes)
      (endpoint : n.endpoint = (Dict.getText? entries "endpoint").bind Value.text?)
      (segments : Assoc.keys n.children = Assoc.keys (kept routes))
      (nodes : List.Forall₂ (Mirrors kept) (Assoc.values (kept routes)) (Assoc.values n.children)) :
      Mirrors kept (.dict entries) n

/-- No two keys of the routes of a node have the same text. -/
def DistinctSegments : Value → Prop :=
  EveryNode fun entries => ∀ routes, part? entries "routes" = some routes →
    (Assoc.keys (byText routes)).Nodup

end Document

/-! ## Writing in parallel -/

namespace Assoc

variable {κ α β : Type} {R : α → β → Prop}

/-- Two mappings with the same keys, whose values stand in a relation. -/
def Parallel (R : α → β → Prop) (m : Assoc κ α) (m' : Assoc κ β) : Prop :=
  List.Forall₂ (fun e e' => e.1 = e'.1 ∧ R e.2 e'.2) m m'

theorem Parallel.insert [BEq κ] {m : Assoc κ α} {m' : Assoc κ β} (h : Parallel R m m') (k : κ)
    {v : α} {v' : β} (hv : R v v') : Parallel R (m.insert k v) (m'.insert k v') := by
  induction h with
  | nil => exact .cons ⟨rfl, hv⟩ .nil
  | @cons e e' m m' first rest ih =>
    obtain ⟨k₀, v₀⟩ := e
    obtain ⟨k₀', v₀'⟩ := e'
    obtain ⟨rfl, related⟩ := first
    rw [Assoc.insert, Assoc.insert]
    split
    · exact .cons ⟨rfl, hv⟩ rest
    · exact .cons ⟨rfl, related⟩ ih

theorem Parallel.overlay [BEq κ] {m es : Assoc κ α} {m' es' : Assoc κ β} (h : Parallel R m m')
    (hes : Parallel R es es') : Parallel R (m.overlay es) (m'.overlay es') := by
  induction hes generalizing m m' with
  | nil => exact h
  | @cons e e' es es' first rest ih =>
    obtain ⟨same, related⟩ := first
    rw [overlay_cons, overlay_cons, ← same]
    exact ih (h.insert e.1 related)

theorem Parallel.keys {m : Assoc κ α} {m' : Assoc κ β} (h : Parallel R m m') :
    Assoc.keys m = Assoc.keys m' := by
  induction h with
  | nil => rfl
  | cons first _ ih =>
    show _ :: Assoc.keys _ = _ :: Assoc.keys _
    rw [first.1, ih]

theorem Parallel.values {m : Assoc κ α} {m' : Assoc κ β} (h : Parallel R m m') :
    List.Forall₂ R (Assoc.values m) (Assoc.values m') :=
  List.forall₂_map_left_iff.2 (List.forall₂_map_right_iff.2 (h.imp fun _ _ both => both.2))

end Assoc

namespace Document

/-! ## The routes that are kept -/

/-- Nothing is written over where all texts are different. -/
theorem written_of_nodup {routes : Dict} (h : (Assoc.keys (byText routes)).Nodup) :
    written routes = byText routes :=
  Assoc.overlay_of_nodup h

theorem mem_values_byText {routes : Dict} {v : Value} :
    v ∈ Assoc.values (byText routes) ↔ ∃ segment, (segment, v) ∈ routes := by
  simp [Assoc.values, byText]

theorem mirrors_node [Platform] {location : String} {v : Value} {n : Node}
    (h : node location v = .ok n) : Mirrors written v n := by
  induction v using node_induction generalizing location n with
  | other v leaf =>
    obtain ⟨entries, -, -, -, rfl, -⟩ := node_eq_ok h
    cases leaf
  | mapping entries ih =>
    obtain ⟨-, routes, children, -, -, -, under, read, same, labelled⟩ := node_eq_ok_iff.1 h
    have parallel : Assoc.Parallel (Mirrors written) (byText routes) children := by
      have each := (List.forall₂_and_left _ _).2 ⟨fun _ => id, (nodes_eq_ok_iff.1 read).2⟩
      refine List.forall₂_map_left_iff.2 (each.imp ?_)
      rintro e c ⟨member, segment, described⟩
      exact ⟨segment.symm, ih routes under e member described⟩
    have kept : Assoc.Parallel (Mirrors written) (written routes) n.children := by
      rw [same]
      exact Assoc.Parallel.overlay .nil parallel
    exact .node under labelled.endpoint_eq kept.keys.symm kept.values

/-! ## Keeping all routes -/

theorem mirrors_byText {v : Value} {n : Node} (h : Mirrors written v n)
    (distinct : DistinctSegments v) : Mirrors byText v n := by
  induction v using node_induction generalizing n with
  | other v leaf =>
    cases h
    cases leaf
  | mapping entries ih =>
    cases h with
    | @node _ routes _ under endpoint keys nodes =>
      obtain ⟨own, below⟩ := everyNode_dict_iff.1 distinct
      rw [written_of_nodup (own routes under)] at keys nodes
      have each := (List.forall₂_and_left _ _).2 ⟨fun _ => id, nodes⟩
      refine .node under endpoint keys (each.imp ?_)
      rintro v c ⟨member, mirrors⟩
      obtain ⟨segment, member⟩ := mem_values_byText.1 member
      exact ih routes under (segment, v) member mirrors (below routes under (segment, v) member)

theorem nodup_of_mirrors {entries routes : Dict} {n : Node}
    (kept : Mirrors written (.dict entries) n) (all : Mirrors byText (.dict entries) n)
    (under : part? entries "routes" = some routes) : (Assoc.keys (byText routes)).Nodup := by
  obtain ⟨own, -, keys, -⟩ := kept
  obtain ⟨own', -, keys', -⟩ := all
  cases own.symm.trans under
  cases own'.symm.trans under
  rw [← keys', keys]
  exact Assoc.nodup_keys_ofList _

/-- Where all routes are kept, no two keys have the same text. -/
theorem distinct_of_mirrors {v : Value} {n : Node} (kept : Mirrors written v n)
    (all : Mirrors byText v n) : DistinctSegments v := by
  intro entries inside routes under
  generalize same : Value.dict entries = w at inside
  induction inside generalizing n with
  | itself v =>
    subst same
    exact nodup_of_mirrors kept all under
  | @under es rs segment child w own member rest ih =>
    obtain ⟨own₁, -, -, nodes⟩ := id kept
    obtain ⟨own₂, -, -, nodes'⟩ := id all
    cases own₁.symm.trans own₂
    rw [written_of_nodup (nodup_of_mirrors kept all own₁)] at nodes
    have found := mem_values_byText.2 ⟨segment, (mem_part_iff own₁).2 ⟨rs, own, member⟩⟩
    obtain ⟨i, hi, rfl⟩ := List.getElem_of_mem found
    have hi' : i < (Assoc.values n.children).length := nodes.length_eq ▸ hi
    exact ih (nodes.get hi hi') (nodes'.get hi hi') same

/-! ## Documents -/

/-- The routes of a document are those of the node that the document is read as. -/
theorem Mirrors.of_erase_root {kept : Dict → Assoc String Value} {entries : Dict} {n : Node}
    (h : Mirrors kept (.dict (Assoc.erase entries (.text "root"))) n) :
    Mirrors kept (.dict entries) n := by
  obtain ⟨own, endpoint, keys, nodes⟩ := h
  rw [part?_erase_root entries (by decide)] at own
  rw [getText?_erase entries (by decide)] at endpoint
  exact .node own endpoint keys nodes

/-- **A tree keeps the routes of its document**, in their order and with everything below them,
where their keys have different texts. Where a text is repeated, there is one child in place of the
routes with it: it stands where the first of them does, and is what the last of them describes. -/
theorem tree_mirrors [Platform] {doc : Value} {t : SchemaTree} (h : tree doc = .ok t) :
    Mirrors written doc t.root ∧ (Mirrors byText doc t.root ↔ DistinctSegments doc) := by
  obtain ⟨entries, rfl, -, -, -, read⟩ := tree_eq_ok_iff.1 h
  have kept := (mirrors_node read).of_erase_root
  exact ⟨kept, distinct_of_mirrors kept, mirrors_byText kept⟩

/-- A document whose routes have a number, a null value, a truth value and a date for keys. -/
def shelves : Value := .dict
  [(.text "root", .text "https://svc.com"),
    (.text "routes", .dict
      [(.int 2024, .dict
          [(.text "routes", .dict
            [(.null, .dict [(.text "endpoint", .text "loose")]),
              (.bool true, .dict [(.text "endpoint", .text "bound")])])]),
        (.date ⟨2024, 2, 29⟩, .dict [(.text "endpoint", .text "leap")])])]

theorem distinctSegments_shelves : DistinctSegments shelves := by
  simp only [shelves, DistinctSegments, everyNode_dict_iff, part?, Dict.getText?_cons,
    String.reduceEq, ↓reduceIte, Value.truthy, List.isEmpty_cons, Bool.not_false, Value.dict?,
    Option.some.injEq, forall_eq', List.forall_mem_cons, Dict.getText?_nil, List.nil_eq, forall_eq,
    List.not_mem_nil, IsEmpty.forall_iff, implies_true, and_true, and_self, and_self_right]
  decide

theorem tree_mirrors_shelves :
    let _ : Platform := .usual
    ∃ t, tree shelves = .ok t ∧
      Assoc.keys t.root.children = ["2024", "2024-02-29"] ∧ Mirrors byText shelves t.root := by
  intro _
  obtain ⟨t, read, keys⟩ : ∃ t, @tree .usual shelves = .ok t ∧
      Assoc.keys t.root.children = ["2024", "2024-02-29"] :=
    Outcome.exists_of_toOption_map (by decide +kernel)
  exact ⟨t, read, keys, (tree_mirrors read).2.2 distinctSegments_shelves⟩

/-- Two routes, one at a number and one at the text of the number. -/
def twinRoutes : Dict :=
  [(.int 1, .dict [(.text "endpoint", .text "first")]),
    (.text "1", .dict [(.text "endpoint", .text "second")])]

/-- A document with these routes. -/
def twins : Value := .dict
  [(.text "root", .text "https://svc.com"), (.text "routes", .dict twinRoutes)]

/-- The first of two routes with the same text is lost without a fault. -/
theorem tree_collapses :
    let _ : Platform := .usual
    ∃ t, tree twins = .ok t ∧
      t.root.children.map (fun c => (c.1, c.2.endpoint)) = [("1", some "second")] ∧
      ¬Mirrors byText twins t.root := by
  intro _
  obtain ⟨t, read, children⟩ : ∃ t, @tree .usual twins = .ok t ∧
      t.root.children.map (fun c => (c.1, c.2.endpoint)) = [("1", some "second")] :=
    Outcome.exists_of_toOption_map (by decide +kernel)
  refine ⟨t, read, children, fun all => ?_⟩
  obtain ⟨entries, same, -, -, -, root⟩ := tree_eq_ok_iff.1 read
  cases same
  have repeated : (Assoc.keys (byText twinRoutes)).Nodup :=
    nodup_of_mirrors (mirrors_node root).of_erase_root all (part?_of_dict (by simp))
  exact absurd repeated (by decide)

end Document

end RouteSchema
