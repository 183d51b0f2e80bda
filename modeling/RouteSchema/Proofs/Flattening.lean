import Mathlib.Data.List.Forall2
import RouteSchema.Definition
import RouteSchema.Proofs.Joining
import RouteSchema.Proofs.Sequencing

/-!
# The table of a tree

Flattening threads a path and a mapping of attributes down a tree. Seen from the tree, a definition
is about a way from the root to an endpoint, and says what the whole way says.

* `Leads` tells the ways from a node through routes to an endpoint.
* `Node.ways` lists them; `mem_ways` and `pairwise_ways` say that the list holds each of them once,
  in the order of the positions taken.
* `flatten_describes`: the definitions of a table describe the ways, one each and in that order.
-/

namespace RouteSchema

/-- A way down a tree: the positions of the children taken and their segments, the routes passed,
and the endpoint. -/
structure Way where
  places : List Nat
  segments : List String
  routes : List Node
  endpoint : Node

namespace Way

/-- The nodes of a way, from the first to the endpoint. -/
def nodes (w : Way) : List Node := w.routes ++ [w.endpoint]

/-- The declarations along a way. -/
def declared (w : Way) : List Attribute := w.nodes.flatMap Node.attributes

/-- A way from a child, continued from the route above it. -/
def through (route : Node) (place : Nat) (segment : String) (w : Way) : Way :=
  ⟨place :: w.places, segment :: w.segments, route :: w.routes, w.endpoint⟩

end Way

/-- A way leads from a node through routes to an endpoint. -/
inductive Leads : Node → Way → Prop
  | endpoint {n : Node} (h : n.isEndpoint = true) : Leads n ⟨[], [], [], n⟩
  | child {n child : Node} {place : Nat} {segment : String} {w : Way}
      (route : n.isEndpoint = false) (found : n.children[place]? = some (segment, child))
      (rest : Leads child w) : Leads n (w.through n place segment)

/-- A definition describes the endpoint of a way: its path is the joined segments, and every key
declared along the way is bound to its last declaration in the deepest node that declares it. -/
structure Describes (address : String) (w : Way) (d : Definition) : Prop where
  id : w.endpoint.endpoint = some d.id
  path : d.path = if w.segments = [] then address else Path.join address w.segments
  method : d.method = w.endpoint.method.getD .get
  keys : Assoc.keys d.attributes = (w.declared.map Attribute.key).eraseDups
  value : ∀ key, Assoc.get? d.attributes key =
    w.nodes.reverse.findSome? fun n => n.attributes.reverse.find? (·.key == key)
  declared : ∀ entry ∈ d.attributes, entry.2 ∈ w.declared ∧ entry.1 = entry.2.key

/-! ## The ways of a tree -/

mutual

/-- The ways from a node to the endpoints at it and below it. -/
def Node.ways (n : Node) : List Way :=
  match n with
  | ⟨_, _, some _, _⟩ => [⟨[], [], [], n⟩]
  | ⟨_, children, none, _⟩ => waysBelow n 0 children

/-- The ways from a route to the endpoints below its children from a position on. -/
def waysBelow (route : Node) (place : Nat) : List (String × Node) → List Way
  | [] => []
  | (segment, child) :: rest =>
    child.ways.map (.through route place segment) ++ waysBelow route (place + 1) rest

end

mutual

theorem mem_ways : ∀ {n : Node} {w : Way}, w ∈ n.ways ↔ Leads n w
  | ⟨own, children, some id, method⟩, w => by
    rw [Node.ways, List.mem_singleton]
    constructor
    · rintro rfl
      exact .endpoint rfl
    · intro h
      cases h with
      | endpoint => rfl
      | child route => cases route
  | ⟨own, children, none, method⟩, w => by
    rw [Node.ways, mem_waysBelow]
    constructor
    · rintro ⟨i, segment, child, v, found, lead, rfl⟩
      exact .child rfl (by simpa using found) lead
    · intro h
      cases h with
      | endpoint h => cases h
      | child route found rest => exact ⟨_, _, _, _, found, rest, by rw [Nat.zero_add]⟩

theorem mem_waysBelow {route : Node} : ∀ {children : List (String × Node)} {place : Nat} {w : Way},
    w ∈ waysBelow route place children ↔ ∃ i segment child v,
      children[i]? = some (segment, child) ∧ Leads child v ∧ w = v.through route (place + i) segment
  | [], place, w => by simp [waysBelow]
  | (segment, child) :: rest, place, w => by
    rw [waysBelow, List.mem_append, List.mem_map, mem_waysBelow]
    constructor
    · rintro (⟨v, hv, rfl⟩ | ⟨i, s, c, v, found, lead, rfl⟩)
      · exact ⟨0, segment, child, v, rfl, mem_ways.1 hv, rfl⟩
      · exact ⟨i + 1, s, c, v, found, lead, by rw [Nat.add_assoc, Nat.add_comm 1]⟩
    · rintro ⟨_ | i, s, c, v, found, lead, rfl⟩
      · cases found
        exact .inl ⟨v, mem_ways.2 lead, rfl⟩
      · exact .inr ⟨i, s, c, v, found, lead, by rw [Nat.add_assoc, Nat.add_comm 1]⟩

end

mutual

theorem pairwise_ways : ∀ n : Node, (n.ways.map Way.places).Pairwise (· < ·)
  | ⟨own, children, some id, method⟩ => by
    rw [Node.ways]
    exact List.pairwise_singleton _ _
  | ⟨own, children, none, method⟩ => by
    rw [Node.ways]
    exact pairwise_waysBelow _ children 0

theorem pairwise_waysBelow (route : Node) : ∀ (children : List (String × Node)) (place : Nat),
    ((waysBelow route place children).map Way.places).Pairwise (· < ·)
  | [], place => List.Pairwise.nil
  | (segment, child) :: rest, place => by
    rw [waysBelow, List.map_append, List.map_map, List.pairwise_append]
    refine ⟨?_, pairwise_waysBelow route rest (place + 1), ?_⟩
    · have below := (pairwise_ways child).map (S := (· < ·)) (place :: ·) fun _ _ h =>
        List.cons_lt_cons_iff.2 (.inr ⟨rfl, h⟩)
      rwa [List.map_map] at below
    · -- the ways below a later child take a later position first
      rintro _ hp _ hq
      obtain ⟨v, -, rfl⟩ := List.mem_map.1 hp
      obtain ⟨w, hw, rfl⟩ := List.mem_map.1 hq
      obtain ⟨i, s, c, u, -, -, rfl⟩ := mem_waysBelow.1 hw
      exact List.cons_lt_cons_iff.2 (.inl (by omega))

end

/-! ## The walk -/

/-- An attribute as an entry of a mapping. -/
def Attribute.entry (a : Attribute) : String × Attribute := (a.key, a)

/-- The definition of the endpoint of a way, from a node with a path and inherited attributes. -/
def Way.definition (path : String) (inherited : Assoc String Attribute) (id : String) (w : Way) :
    Definition where
  id := id
  path := w.segments.foldl (fun path segment => Path.join path [segment]) path
  method := w.endpoint.method.getD .get
  attributes := Assoc.overlay inherited (w.declared.map Attribute.entry)

theorem mergeAttributes_eq {inherited merged : Assoc String Attribute} {own : List Attribute}
    (h : mergeAttributes inherited own = .ok merged) :
    merged = Assoc.overlay inherited (own.map Attribute.entry) := by
  induction own generalizing inherited with
  | nil =>
    cases h
    rfl
  | cons a own ih =>
    rw [mergeAttributes] at h
    split at h
    · cases h
    · exact ih h

/-- An identifier that passes the check passes it as it is. -/
theorem checkId_eq {place id found : String} (h : checkId place (some id) = .ok found) :
    found = id := by
  rw [checkId] at h
  split_ifs at h
  exact (Except.ok.inj h).symm

theorem checkId_of_identifier {id : String} (filled : id ≠ "")
    (identifier : Text.isIdentifier id = true) (free : Text.isReservedWord id = false)
    (bare : id.startsWith "_" = false) (place : String) : checkId place (some id) = .ok id := by
  simp [checkId, filled, identifier, free, bare]

/-- Continuing a way upwards moves its first segment into the path and the attributes of its first
route into the inherited ones. -/
theorem Way.definition_through (path : String) (inherited : Assoc String Attribute) (id : String)
    (route : Node) (place : Nat) (segment : String) (w : Way) :
    (w.through route place segment).definition path inherited id =
      w.definition (Path.join path [segment])
        (Assoc.overlay inherited (route.attributes.map Attribute.entry)) id := by
  simp [Way.definition, Way.through, Way.declared, Way.nodes, Assoc.overlay]

/-- A table made by a walk: the definitions of ways, in order. -/
def Walked (path : String) (inherited : Assoc String Attribute) (ways : List Way)
    (table : List Definition) : Prop :=
  List.Forall₂ (fun w d => w.endpoint.endpoint = some d.id ∧ d = w.definition path inherited d.id)
    ways table

theorem Walked.through {path segment : String} {inherited : Assoc String Attribute}
    {ways : List Way} {table : List Definition} {route : Node} (place : Nat)
    (h : Walked (Path.join path [segment])
      (Assoc.overlay inherited (route.attributes.map Attribute.entry)) ways table) :
    Walked path inherited (ways.map (.through route place segment)) table := by
  refine List.forall₂_map_left_iff.2 (h.imp ?_)
  rintro w d ⟨hid, hd⟩
  refine ⟨hid, ?_⟩
  rw [Way.definition_through]
  exact hd

/-- Every definition of a table made by a walk is that of a way. -/
theorem Walked.exists_way {path : String} {inherited : Assoc String Attribute} {ways : List Way}
    {table : List Definition} (h : Walked path inherited ways table) {d : Definition}
    (hd : d ∈ table) : ∃ w ∈ ways,
      w.endpoint.endpoint = some d.id ∧ d = w.definition path inherited d.id := by
  induction h with
  | nil => exact absurd hd List.not_mem_nil
  | cons first _ ih =>
    rcases List.mem_cons.1 hd with rfl | hd
    · exact ⟨_, List.mem_cons_self, first⟩
    · obtain ⟨w, hw, holds⟩ := ih hd
      exact ⟨w, List.mem_cons_of_mem _ hw, holds⟩

mutual

theorem walked_definitions : ∀ {n : Node} {path : String} {inherited : Assoc String Attribute}
    {table : List Definition}, n.definitions path inherited = .ok table →
    Walked path inherited n.ways table
  | ⟨own, children, some id, method⟩, path, inherited, table, h => by
    rw [Node.definitions] at h
    obtain ⟨merged, hm, h⟩ := Outcome.bind_eq_ok.1 h
    obtain ⟨found, hid, h⟩ := Outcome.bind_eq_ok.1 h
    cases h
    obtain rfl := checkId_eq hid
    obtain rfl := mergeAttributes_eq hm
    rw [Node.ways]
    refine .cons ⟨rfl, ?_⟩ .nil
    simp [Way.definition, Way.declared, Way.nodes]
  | ⟨own, children, none, method⟩, path, inherited, table, h => by
    rw [Node.definitions] at h
    obtain ⟨merged, hm, h⟩ := Outcome.bind_eq_ok.1 h
    obtain rfl := mergeAttributes_eq hm
    rw [Node.ways]
    exact walked_definitionsBelow ⟨own, children, none, method⟩ 0 h

theorem walked_definitionsBelow (route : Node) : ∀ {children : List (String × Node)} (place : Nat)
    {path : String} {inherited : Assoc String Attribute} {table : List Definition},
    definitionsBelow path (Assoc.overlay inherited (route.attributes.map Attribute.entry))
      children = .ok table → Walked path inherited (waysBelow route place children) table
  | [], place, path, inherited, table, h => by
    rw [definitionsBelow] at h
    cases h
    exact .nil
  | (segment, child) :: rest, place, path, inherited, table, h => by
    rw [definitionsBelow] at h
    obtain ⟨first, hf, h⟩ := Outcome.bind_eq_ok.1 h
    obtain ⟨others, ho, h⟩ := Outcome.bind_eq_ok.1 h
    cases h
    rw [waysBelow]
    exact List.rel_append ((walked_definitions hf).through place)
      (walked_definitionsBelow route (place + 1) ho)

end

theorem walked_flatten {t : SchemaTree} {table : List Definition} (h : t.flatten = .ok table) :
    Walked t.address [] t.root.ways table := by
  obtain ⟨walk, hw, h⟩ := Outcome.bind_eq_ok.1 h
  split at h
  · cases h
  · cases h
    exact walked_definitions hw

/-- Where no identifier is repeated, all are different from each other and from the given ones. -/
theorem nodup_of_firstRepeated? {seen : Assoc String String} {table : List Definition}
    (h : firstRepeated? seen table = none) :
    (table.map Definition.id).Nodup ∧ ∀ d ∈ table, d.id ∉ Assoc.keys seen := by
  induction table generalizing seen with
  | nil => exact ⟨List.nodup_nil, fun _ hd => absurd hd List.not_mem_nil⟩
  | cons d table ih =>
    rw [firstRepeated?] at h
    split at h
    · cases h
    · rename_i unseen
      obtain ⟨distinct, fresh⟩ := ih h
      have later : ∀ e ∈ table, e.id ≠ d.id ∧ e.id ∉ Assoc.keys seen := by
        intro e he
        have both := fresh e he
        rw [← Assoc.contains_iff_mem_keys, Assoc.contains_insert, Bool.or_eq_true, beq_iff_eq,
          not_or, Assoc.contains_iff_mem_keys] at both
        exact ⟨both.2, both.1⟩
      refine ⟨List.nodup_cons.2 ⟨fun repeated => ?_, distinct⟩, fun e he => ?_⟩
      · obtain ⟨e, he, same⟩ := List.mem_map.1 repeated
        exact (later e he).1 same
      · rcases List.mem_cons.1 he with rfl | he
        · exact Assoc.get?_eq_none_iff.1 unseen
        · exact (later e he).2

/-! ## What a definition says -/

/-- The last declaration of a key along a way stands in the deepest node that declares it. -/
theorem Way.find?_declared (w : Way) (p : Attribute → Bool) :
    w.declared.reverse.find? p =
      w.nodes.reverse.findSome? fun n => n.attributes.reverse.find? p := by
  rw [Way.declared, List.reverse_flatMap, List.find?_flatMap]
  rfl

theorem Way.describes {address id : String} {w : Way} (h : w.endpoint.endpoint = some id) :
    Describes address w (w.definition address [] id) where
  id := h
  path := Path.foldl_join address w.segments
  method := rfl
  keys := by
    show Assoc.keys (Assoc.ofList _) = _
    rw [Assoc.keys_ofList, Assoc.keys, List.map_map]
    rfl
  value key := by
    show Assoc.get? (Assoc.ofList _) key = _
    rw [Assoc.get?_ofList, ← List.map_reverse, List.find?_map, ← Way.find?_declared, Option.map_map]
    exact Option.map_id'
  declared entry h := by
    obtain ⟨a, ha, rfl⟩ := List.mem_map.1 (Assoc.mem_ofList h)
    exact ⟨ha, rfl⟩

/-- **The definitions of a table describe the ways from the root to its endpoints**, one each, in
the order in which a walk meets them: children by position, each with everything below it before
the next one. -/
theorem flatten_describes {t : SchemaTree} {table : List Definition} (h : t.flatten = .ok table) :
    ∃ ways : List Way, (ways.map Way.places).Pairwise (· < ·) ∧
      (∀ w, w ∈ ways ↔ Leads t.root w) ∧ List.Forall₂ (Describes t.address) ways table := by
  refine ⟨t.root.ways, pairwise_ways t.root, fun w => mem_ways, (walked_flatten h).imp ?_⟩
  rintro w d ⟨hid, hd⟩
  rw [hd]
  exact w.describes hid

/-- A forum, with a key declared twice, one overridden below, a segment with a double separator, an
empty segment, and an endpoint with a node below it that does not count. -/
def forum : SchemaTree where
  address := "https://svc.com/"
  root :=
    { attributes := [.literal "lang" (.text "en"), .literal "key" .null,
        .literal "lang" (.text "de")]
      children :=
        [("forum",
          { attributes := [.literal "key" (.int 2)]
            children :=
              [("{id}",
                { attributes := []
                  children := [("old", ⟨[.literal "lang" .null], [], some "old_view", none⟩)]
                  endpoint := some "view"
                  method := none }),
                ("{id}//posts", ⟨[.literal "draft" (.bool true)], [], some "post", some .post⟩)]
            endpoint := none
            method := none }),
          ("", ⟨[], [], some "home", none⟩)]
      endpoint := none
      method := none }

theorem flatten_describes_forum : ∃ table, forum.flatten = .ok table ∧
    table.map Definition.path =
      ["https://svc.com/forum/{id}", "https://svc.com/forum/{id}/posts", "https://svc.com"] ∧
    ∃ ways : List Way, (ways.map Way.places).Pairwise (· < ·) ∧
      (∀ w, w ∈ ways ↔ Leads forum.root w) ∧
      List.Forall₂ (Describes forum.address) ways table := by
  have paths : forum.flatten.map (·.map Definition.path) =
      .ok ["https://svc.com/forum/{id}", "https://svc.com/forum/{id}/posts",
        "https://svc.com"] := by
    decide +kernel
  obtain ⟨table, h, paths⟩ := Outcome.map_eq_ok.1 paths
  exact ⟨table, h, paths, flatten_describes h⟩

end RouteSchema
