import Mathlib.Data.List.Nodup
import RouteSchema.Proofs.Flattening

/-!
# Trees without a table

A tree has no table if a node declares a reserved key, if an endpoint has an identifier that cannot
name it, or if two endpoints have the same identifier. A walk of the tree meets its nodes one after
the other, and the fault is that of the first node it has to refuse; a repeated identifier is only
found when the walk is over.

* `Meets` tells the nodes that a walk meets: all but those below endpoints. `Node.visits` lists
  them: `mem_visits`, `pairwise_visits`.
* `OwnFault` is the fault that a node has by itself, and `Node.Faulty` says that there is one.
* `fault?_definitions`: a walk fails as the first of the nodes that it meets.
* `firstRepeated?_eq_some_iff`: the fault of a table with a repeated identifier.
* `flatten_refuses`: the trees without a table, and their faults.
-/

namespace RouteSchema

/-- A node that a walk meets: the positions of the children taken, their segments, and the node. -/
structure Visit where
  places : List Nat
  segments : List String
  node : Node

/-- A visit in a child, seen from the route above it. -/
def Visit.through (place : Nat) (segment : String) (v : Visit) : Visit :=
  ⟨place :: v.places, segment :: v.segments, v.node⟩

/-- A walk from a node meets the node and, if it is a route, what a walk from one of its children
meets. -/
inductive Meets : Node → Visit → Prop
  | itself (n : Node) : Meets n ⟨[], [], n⟩
  | child {n child : Node} {place : Nat} {segment : String} {v : Visit}
      (route : n.isEndpoint = false) (found : n.children[place]? = some (segment, child))
      (rest : Meets child v) : Meets n (v.through place segment)

/-- A node declares a reserved key, or is an endpoint with an identifier that cannot name it. -/
def Node.Faulty (n : Node) : Prop :=
  (∃ a ∈ n.attributes, a.key ∈ reservedKeys) ∨
    ∃ id, n.endpoint = some id ∧ (id = "" ∨ Text.isIdentifier id = false ∨
      Text.isReservedWord id = true ∨ id.startsWith "_" = true)

/-- The fault of a node with a path: its first reserved key or, if there is none, its
identifier. -/
inductive OwnFault (path : String) (n : Node) : AuthoringFault → Prop
  | reservedKey {before after : List Attribute} {a : Attribute}
      (own : n.attributes = before ++ a :: after) (reserved : a.key ∈ reservedKeys)
      (first : ∀ b ∈ before, b.key ∉ reservedKeys) : OwnFault path n (.reservedKey a.key)
  | emptyId (plain : ∀ a ∈ n.attributes, a.key ∉ reservedKeys) (id : n.endpoint = some "") :
      OwnFault path n (.emptyId path)
  | notIdentifier {id : String} (plain : ∀ a ∈ n.attributes, a.key ∉ reservedKeys)
      (endpoint : n.endpoint = some id) (nonempty : id ≠ "")
      (unusual : Text.isIdentifier id = false ∨ Text.isReservedWord id = true) :
      OwnFault path n (.notIdentifier id path)
  | underscoredId {id : String} (plain : ∀ a ∈ n.attributes, a.key ∉ reservedKeys)
      (endpoint : n.endpoint = some id) (usual : Text.isIdentifier id = true)
      (free : Text.isReservedWord id = false) (underscored : id.startsWith "_" = true) :
      OwnFault path n (.underscoredId id path)

/-- Two endpoints of a tree, one behind the other, have the same identifier. -/
structure Repeats (root : Node) (v w : Way) : Prop where
  first : Leads root v
  second : Leads root w
  behind : v.places < w.places
  same : v.endpoint.endpoint = w.endpoint.endpoint

/-- The path of a node, from the root address and the segments down to it. -/
def pathTo (address : String) (segments : List String) : String :=
  if segments = [] then address else Path.join address segments

/-! ## The nodes that a walk meets -/

mutual

/-- The nodes that a walk from a node meets, in its order. -/
def Node.visits (n : Node) : List Visit :=
  match n with
  | ⟨_, _, some _, _⟩ => [⟨[], [], n⟩]
  | ⟨_, children, none, _⟩ => ⟨[], [], n⟩ :: visitsBelow 0 children

/-- The nodes that a walk meets at children from a position on, and below them. -/
def visitsBelow (place : Nat) : List (String × Node) → List Visit
  | [] => []
  | (segment, child) :: rest =>
    child.visits.map (.through place segment) ++ visitsBelow (place + 1) rest

end

mutual

theorem mem_visits : ∀ {n : Node} {v : Visit}, v ∈ n.visits ↔ Meets n v
  | ⟨own, children, some id, method⟩, v => by
    rw [Node.visits, List.mem_singleton]
    constructor
    · rintro rfl
      exact .itself _
    · intro h
      cases h with
      | itself => rfl
      | child route => cases route
  | ⟨own, children, none, method⟩, v => by
    rw [Node.visits, List.mem_cons, mem_visitsBelow]
    constructor
    · rintro (rfl | ⟨i, segment, child, u, found, meets, rfl⟩)
      · exact .itself _
      · exact .child rfl (by simpa using found) meets
    · intro h
      cases h with
      | itself => exact .inl rfl
      | child route found rest => exact .inr ⟨_, _, _, _, found, rest, by rw [Nat.zero_add]⟩

theorem mem_visitsBelow : ∀ {children : List (String × Node)} {place : Nat} {v : Visit},
    v ∈ visitsBelow place children ↔ ∃ i segment child u,
      children[i]? = some (segment, child) ∧ Meets child u ∧ v = u.through (place + i) segment
  | [], place, v => by simp [visitsBelow]
  | (segment, child) :: rest, place, v => by
    rw [visitsBelow, List.mem_append, List.mem_map, mem_visitsBelow]
    constructor
    · rintro (⟨u, hu, rfl⟩ | ⟨i, s, c, u, found, meets, rfl⟩)
      · exact ⟨0, segment, child, u, rfl, mem_visits.1 hu, rfl⟩
      · exact ⟨i + 1, s, c, u, found, meets, by rw [Nat.add_assoc, Nat.add_comm 1]⟩
    · rintro ⟨_ | i, s, c, u, found, meets, rfl⟩
      · cases found
        exact .inl ⟨u, mem_visits.2 meets, rfl⟩
      · exact .inr ⟨i, s, c, u, found, meets, by rw [Nat.add_assoc, Nat.add_comm 1]⟩

end

mutual

theorem pairwise_visits : ∀ n : Node, (n.visits.map Visit.places).Pairwise (· < ·)
  | ⟨own, children, some id, method⟩ => by
    rw [Node.visits]
    exact List.pairwise_singleton _ _
  | ⟨own, children, none, method⟩ => by
    rw [Node.visits]
    refine List.pairwise_cons.2 ⟨fun p hp => ?_, pairwise_visitsBelow children 0⟩
    -- a node comes before all that is below it
    obtain ⟨v, hv, rfl⟩ := List.mem_map.1 hp
    obtain ⟨i, s, c, u, -, -, rfl⟩ := mem_visitsBelow.1 hv
    exact List.nil_lt_cons _ _

theorem pairwise_visitsBelow : ∀ (children : List (String × Node)) (place : Nat),
    ((visitsBelow place children).map Visit.places).Pairwise (· < ·)
  | [], place => List.Pairwise.nil
  | (segment, child) :: rest, place => by
    rw [visitsBelow, List.map_append, List.map_map, List.pairwise_append]
    refine ⟨?_, pairwise_visitsBelow rest (place + 1), ?_⟩
    · have below := (pairwise_visits child).map (S := (· < ·)) (place :: ·) fun _ _ h =>
        List.cons_lt_cons_iff.2 (.inr ⟨rfl, h⟩)
      rwa [List.map_map] at below
    · rintro _ hp _ hq
      obtain ⟨u, -, rfl⟩ := List.mem_map.1 hp
      obtain ⟨v, hv, rfl⟩ := List.mem_map.1 hq
      obtain ⟨i, s, c, w, -, -, rfl⟩ := mem_visitsBelow.1 hv
      exact List.cons_lt_cons_iff.2 (.inl (by omega))

end

/-! ## The fault of a node -/

/-- The fault of a node with a path. -/
def Node.fault? (path : String) (n : Node) : Option AuthoringFault :=
  ((n.attributes.find? (reservedKeys.contains ·.key)).map (.reservedKey ·.key)).or
    (n.endpoint.bind fun id => Outcome.fault? (checkId path (some id)))

theorem fault?_eq_some_iff {path : String} {n : Node} {f : AuthoringFault} :
    n.fault? path = some f ↔ OwnFault path n f := by
  rw [Node.fault?, Option.or_eq_some_iff, Option.map_eq_some_iff, Option.map_eq_none_iff,
    Option.bind_eq_some_iff, List.find?_eq_none]
  constructor
  · rintro (⟨a, found, rfl⟩ | ⟨plain, id, endpoint, failed⟩)
    · obtain ⟨reserved, before, after, own, first⟩ := List.find?_eq_some_iff_append.1 found
      exact .reservedKey own (by simpa using reserved) (by simpa using first)
    · have plain : ∀ a ∈ n.attributes, a.key ∉ reservedKeys := by simpa using plain
      rw [Outcome.fault?_eq_some_iff, checkId] at failed
      split_ifs at failed with empty unusual underscored
      · cases failed
        exact .emptyId plain (beq_iff_eq.1 empty ▸ endpoint)
      · cases failed
        exact .notIdentifier plain endpoint (by simpa using empty) (by simpa using unusual)
      · cases failed
        obtain ⟨usual, free⟩ : Text.isIdentifier id = true ∧ Text.isReservedWord id = false := by
          simpa using unusual
        exact .underscoredId plain endpoint usual free underscored
  · intro own
    cases own with
    | reservedKey own reserved first =>
      refine .inl ⟨_, List.find?_eq_some_iff_append.2 ⟨?_, _, _, own, ?_⟩, rfl⟩
      · simpa using reserved
      · simpa using first
    | emptyId plain endpoint =>
      refine .inr ⟨by simpa using plain, _, endpoint, ?_⟩
      simp [checkId, Outcome.fault?]
    | notIdentifier plain endpoint nonempty unusual =>
      refine .inr ⟨by simpa using plain, _, endpoint, ?_⟩
      simp [checkId, Outcome.fault?, nonempty, unusual]
    | @underscoredId id plain endpoint usual free underscored =>
      refine .inr ⟨by simpa using plain, id, endpoint, ?_⟩
      have nonempty : id ≠ "" := by
        rintro rfl
        exact absurd usual (by decide)
      simp [checkId, Outcome.fault?, usual, free, underscored, nonempty]

theorem fault?_eq_none_iff {path : String} {n : Node} : n.fault? path = none ↔ ¬n.Faulty := by
  have named : ∀ id, Outcome.fault? (checkId path (some id)) = none ↔
      ¬(id = "" ∨ Text.isIdentifier id = false ∨ Text.isReservedWord id = true ∨
        id.startsWith "_" = true) := by
    intro id
    rw [checkId]
    split_ifs with empty unusual underscored
    · simp [Outcome.fault?, beq_iff_eq.1 empty]
    · have unusual : Text.isIdentifier id = false ∨ Text.isReservedWord id = true := by
        simpa using unusual
      rcases unusual with unusual | word
      · simp [Outcome.fault?, unusual]
      · simp [Outcome.fault?, word]
    · simp [Outcome.fault?, underscored]
    · simp_all [Outcome.fault?]
  rw [Node.fault?, Option.or_eq_none_iff, Option.map_eq_none_iff, List.find?_eq_none,
    Option.bind_eq_none_iff, Node.Faulty, not_or]
  refine and_congr (by simp) ?_
  simp only [named]
  simp

/-! ## The walk -/

/-- Whether attributes can be merged depends on a node's own keys alone. -/
theorem fault?_mergeAttributes (inherited : Assoc String Attribute) (own : List Attribute) :
    Outcome.fault? (mergeAttributes inherited own) =
      (own.find? (reservedKeys.contains ·.key)).map (.reservedKey ·.key) := by
  induction own generalizing inherited with
  | nil => rfl
  | cons a own ih =>
    rw [mergeAttributes, List.find?_cons]
    cases reservedKeys.contains a.key with
    | true => rfl
    | false => exact ih _

/-- The path of a node, from that of the node where the walk begins. -/
def Visit.pathFrom (path : String) (v : Visit) : String :=
  v.segments.foldl (fun path segment => Path.join path [segment]) path

/-- The first fault of nodes that a walk meets. -/
def firstFault? (path : String) (visits : List Visit) : Option AuthoringFault :=
  visits.findSome? fun v => v.node.fault? (v.pathFrom path)

theorem firstFault?_through (path segment : String) (place : Nat) (visits : List Visit) :
    firstFault? path (visits.map (.through place segment)) =
      firstFault? (Path.join path [segment]) visits := by
  rw [firstFault?, List.findSome?_map]
  rfl

mutual

/-- A walk fails as the first of the nodes that it meets. -/
theorem fault?_definitions : ∀ (n : Node) (path : String) (inherited : Assoc String Attribute),
    Outcome.fault? (n.definitions path inherited) = firstFault? path n.visits
  | ⟨own, children, some id, method⟩, path, inherited => by
    rw [Node.definitions, Node.visits, firstFault?, List.findSome?_singleton]
    refine (Outcome.fault?_bind fun attributes => Outcome.fault?_bind_pure _ _).trans ?_
    rw [fault?_mergeAttributes]
    rfl
  | ⟨own, children, none, method⟩, path, inherited => by
    rw [Node.definitions, Node.visits, firstFault?, ← List.singleton_append, List.findSome?_append,
      List.findSome?_singleton]
    -- what is inherited below does not matter, so both steps fail on their own
    refine (Outcome.fault?_bind fun attributes =>
      fault?_definitionsBelow children 0 path attributes).trans ?_
    rw [fault?_mergeAttributes, Node.fault?, Option.bind_none, Option.or_none]
    rfl

theorem fault?_definitionsBelow : ∀ (children : List (String × Node)) (place : Nat) (path : String)
    (inherited : Assoc String Attribute),
    Outcome.fault? (definitionsBelow path inherited children) =
      firstFault? path (visitsBelow place children)
  | [], place, path, inherited => rfl
  | (segment, child) :: rest, place, path, inherited => by
    rw [definitionsBelow, visitsBelow, firstFault?, List.findSome?_append, ← firstFault?,
      ← firstFault?, firstFault?_through, ← fault?_definitions child _ inherited,
      ← fault?_definitionsBelow rest (place + 1) path inherited]
    exact Outcome.fault?_bind fun first => Outcome.fault?_bind_pure _ _

end

/-! ## The first in an order -/

section Order

variable {α : Type} {key : α → List Nat} {items before after : List α} {a : α}

/-- Where items stand in order, those before an item are the lesser ones. -/
theorem mem_before_iff (sorted : (items.map key).Pairwise (· < ·))
    (parts : items = before ++ a :: after) {b : α} : b ∈ before ↔ b ∈ items ∧ key b < key a := by
  subst parts
  obtain ⟨-, rest, lesser⟩ := List.pairwise_append.1 (List.pairwise_map.1 sorted)
  constructor
  · exact fun h => ⟨List.mem_append_left _ h, lesser b h a List.mem_cons_self⟩
  · rintro ⟨h, less⟩
    rcases List.mem_append.1 h with h | h
    · exact h
    · rcases List.mem_cons.1 h with rfl | h
      · exact absurd less (List.lt_irrefl _)
      · exact absurd less (List.lt_asymm ((List.pairwise_cons.1 rest).1 b h))

/-- The first fault is the one of the least node at fault. -/
theorem firstFault?_eq_some_iff {address : String} {root : Node} {f : AuthoringFault} :
    firstFault? address root.visits = some f ↔ ∃ v, Meets root v ∧
      OwnFault (pathTo address v.segments) v.node f ∧
        ∀ u, Meets root u → u.places < v.places → ¬u.node.Faulty := by
  have path : ∀ v : Visit, v.pathFrom address = pathTo address v.segments := fun v =>
    Path.foldl_join address v.segments
  simp only [firstFault?, List.findSome?_eq_some_iff, fault?_eq_some_iff, fault?_eq_none_iff, path]
  constructor
  · rintro ⟨before, v, after, parts, fault, first⟩
    refine ⟨v, mem_visits.1 (parts ▸ List.mem_append_right _ List.mem_cons_self), fault, ?_⟩
    exact fun u hu less =>
      first u ((mem_before_iff (pairwise_visits root) parts).2 ⟨mem_visits.2 hu, less⟩)
  · rintro ⟨v, hv, fault, first⟩
    obtain ⟨before, after, parts⟩ := List.append_of_mem (mem_visits.2 hv)
    refine ⟨before, v, after, parts, fault, fun u hu => ?_⟩
    obtain ⟨member, less⟩ := (mem_before_iff (pairwise_visits root) parts).1 hu
    exact first u (mem_visits.1 member) less

theorem firstFault?_eq_none_iff {address : String} {root : Node} :
    firstFault? address root.visits = none ↔ ∀ v, Meets root v → ¬v.node.Faulty := by
  simp only [firstFault?, List.findSome?_eq_none_iff, fault?_eq_none_iff, mem_visits]

/-! ## Repeated identifiers -/

/-- The identifiers of items with their paths. -/
def known (row : α → Definition) (items : List α) : Assoc String String :=
  items.map fun a => ((row a).id, (row a).path)

theorem keys_known (row : α → Definition) (items : List α) :
    Assoc.keys (known row items) = items.map fun a => (row a).id := by
  rw [known, Assoc.keys, List.map_map]
  rfl

theorem insert_known {row : α → Definition} {items : List α}
    (fresh : Assoc.get? (known row items) (row a).id = none) :
    Assoc.insert (known row items) (row a).id (row a).path = known row (items ++ [a]) := by
  rw [Assoc.get?_eq_none_iff, ← Assoc.contains_iff_mem_keys] at fresh
  rw [Assoc.insert_of_not_contains (eq_false_of_ne_true fresh), known, known, List.map_append,
    List.map_singleton]

/-- The first item whose identifier occurs before it, or among items that are known. -/
theorem firstRepeated?_eq_some_iff {row : α → Definition} {prior : List α} {f : AuthoringFault}
    (distinct : (Assoc.keys (known row prior)).Nodup) :
    firstRepeated? (known row prior) (items.map row) = some f ↔
      ∃ before a after, items = before ++ a :: after ∧
        (Assoc.keys (known row (prior ++ before))).Nodup ∧
        ∃ b ∈ prior ++ before, (row b).id = (row a).id ∧
          f = .duplicateId (row a).id (row b).path (row a).path := by
  induction items generalizing prior with
  | nil => simp [firstRepeated?]
  | cons item rest ih =>
    rw [List.map_cons, firstRepeated?]
    cases seen : Assoc.get? (known row prior) (row item).id with
    | some path =>
      obtain ⟨b, hb, same⟩ := List.mem_map.1 (Assoc.mem_of_get? seen)
      obtain ⟨id, rfl⟩ := Prod.mk.inj same
      constructor
      · rintro ⟨⟩
        exact ⟨[], item, rest, rfl, by rwa [List.append_nil],
          b, List.mem_append_left _ hb, id, rfl⟩
      · rintro ⟨_ | ⟨first, before⟩, a, after, parts, nodup, c, hc, same, rfl⟩
        · cases parts
          rw [List.append_nil] at hc
          have found : Assoc.get? (known row prior) (row c).id = some (row c).path :=
            Assoc.get?_of_mem distinct (List.mem_map.2 ⟨c, hc, rfl⟩)
          rw [same, seen] at found
          rw [Option.some.inj found]
        · -- the item would be among those whose identifiers are different
          cases parts
          rw [keys_known, List.map_append, List.nodup_append] at nodup
          exact absurd id (nodup.2.2 _ (List.mem_map_of_mem hb) _ List.mem_cons_self)
    | none =>
      have fresh : (Assoc.keys (known row (prior ++ [item]))).Nodup := by
        rw [← insert_known seen]
        exact Assoc.nodup_keys_overlay distinct [((row item).id, (row item).path)]
      rw [insert_known seen, ih fresh]
      constructor
      · rintro ⟨before, a, after, rfl, nodup, b, hb, rest⟩
        rw [List.append_assoc, List.singleton_append] at nodup hb
        exact ⟨item :: before, a, after, rfl, nodup, b, hb, rest⟩
      · rintro ⟨_ | ⟨first, before⟩, a, after, parts, nodup, b, hb, same, rfl⟩
        · cases parts
          rw [List.append_nil] at hb
          rw [Assoc.get?_eq_none_iff, keys_known] at seen
          exact absurd (List.mem_map.2 ⟨b, hb, same⟩) seen
        · cases parts
          refine ⟨before, a, after, rfl, ?_⟩
          rw [List.append_assoc, List.singleton_append]
          exact ⟨nodup, b, hb, same, rfl⟩

/-- In an order, a table has a repeated identifier when two items have the same one, and the fault
is that of the least item that has one of a lesser item. -/
theorem firstRepeated?_sorted {row : α → Definition} {f : AuthoringFault}
    (sorted : (items.map key).Pairwise (· < ·)) :
    firstRepeated? [] (items.map row) = some f ↔ ∃ b ∈ items, ∃ a ∈ items,
      (key b < key a ∧ (row b).id = (row a).id) ∧
      (∀ c ∈ items, ∀ d ∈ items, key c < key d ∧ (row c).id = (row d).id → ¬key d < key a) ∧
      f = .duplicateId (row a).id (row b).path (row a).path := by
  have start : (Assoc.keys (known row [])).Nodup := List.nodup_nil
  refine (firstRepeated?_eq_some_iff start).trans ?_
  simp only [List.nil_append, keys_known]
  constructor
  · rintro ⟨before, a, after, parts, nodup, b, hb, same, rfl⟩
    obtain ⟨member, less⟩ := (mem_before_iff sorted parts).1 hb
    have ha : a ∈ items := parts ▸ List.mem_append_right _ List.mem_cons_self
    refine ⟨b, member, a, ha, ⟨less, same⟩, fun c hc d hd repeated earlier => ?_, rfl⟩
    have hc := (mem_before_iff sorted parts).2 ⟨hc, List.lt_trans repeated.1 earlier⟩
    have hd := (mem_before_iff sorted parts).2 ⟨hd, earlier⟩
    obtain rfl := List.inj_on_of_nodup_map nodup hc hd repeated.2
    exact List.lt_irrefl _ repeated.1
  · rintro ⟨b, hb, a, ha, ⟨less, same⟩, first, rfl⟩
    obtain ⟨before, after, parts⟩ := List.append_of_mem ha
    have order := List.pairwise_map.1 sorted
    rw [parts] at order
    refine ⟨before, a, after, parts, ?_, b, (mem_before_iff sorted parts).2 ⟨hb, less⟩, same, rfl⟩
    refine List.pairwise_map.2 ((List.pairwise_append.1 order).1.imp_of_mem ?_)
    intro c d hc hd less same
    obtain ⟨hc, -⟩ := (mem_before_iff sorted parts).1 hc
    obtain ⟨hd, earlier⟩ := (mem_before_iff sorted parts).1 hd
    exact first c hc d hd ⟨less, same⟩ earlier

end Order

/-! ## Tables -/

/-- A table made by a walk has a row for every way. -/
theorem Walked.eq_map {path : String} {inherited : Assoc String Attribute} {ways : List Way}
    {table : List Definition} (h : Walked path inherited ways table) :
    table = ways.map fun w => w.definition path inherited (w.endpoint.endpoint.getD "") := by
  induction h with
  | nil => rfl
  | cons first _ ih =>
    rw [List.map_cons, ← ih, first.1, Option.getD_some, ← first.2]

/-- The row of a way in the table of a tree. -/
def Way.row (address : String) (w : Way) : Definition :=
  w.definition address [] (w.endpoint.endpoint.getD "")

theorem Way.path_row (address : String) (w : Way) :
    (w.row address).path = pathTo address w.segments :=
  Path.foldl_join address w.segments

theorem endpoint_of_leads {n : Node} {w : Way} (h : Leads n w) :
    w.endpoint.endpoint = some (w.row "").id := by
  induction h with
  | endpoint h =>
    obtain ⟨id, named⟩ := Option.isSome_iff_exists.1 h
    rw [Way.row, Way.definition, named, Option.getD_some]
  | child _ _ _ ih => exact ih

/-- A repetition in terms of rows. -/
theorem repeats_iff {root : Node} {address : String} {v w : Way} : Repeats root v w ↔
    v ∈ root.ways ∧ w ∈ root.ways ∧
      (v.places < w.places ∧ (v.row address).id = (w.row address).id) := by
  constructor
  · rintro ⟨first, second, behind, same⟩
    exact ⟨mem_ways.2 first, mem_ways.2 second, behind, congrArg (Option.getD · "") same⟩
  · rintro ⟨first, second, behind, same⟩
    refine ⟨mem_ways.1 first, mem_ways.1 second, behind, ?_⟩
    rw [endpoint_of_leads (mem_ways.1 first), endpoint_of_leads (mem_ways.1 second)]
    exact congrArg some same

/-- A tree has no table if its walk fails, or if the walk makes rows with a repeated identifier. -/
theorem flatten_eq_error_iff {t : SchemaTree} {f : AuthoringFault} :
    t.flatten = .error f ↔ firstFault? t.address t.root.visits = some f ∨
      firstFault? t.address t.root.visits = none ∧
        firstRepeated? [] (t.root.ways.map (Way.row t.address)) = some f := by
  rw [SchemaTree.flatten, Outcome.bind_eq_error, ← fault?_definitions t.root t.address [],
    Outcome.fault?_eq_some_iff]
  refine or_congr_right ?_
  cases walk : t.root.definitions t.address [] with
  | error e => simp [Outcome.fault?]
  | ok table =>
    have rows := (walked_definitions walk).eq_map
    constructor
    · rintro ⟨_, ⟨⟩, failed⟩
      split at failed
      · rename_i fault found
        cases failed
        exact ⟨rfl, rows ▸ found⟩
      · cases failed
    · rintro ⟨-, found⟩
      refine ⟨table, rfl, ?_⟩
      rw [rows]
      exact found ▸ rfl

theorem OwnFault.faulty {path : String} {n : Node} {f : AuthoringFault} (h : OwnFault path n f) :
    n.Faulty := by
  by_contra sound
  cases (fault?_eq_some_iff.2 h).symm.trans (fault?_eq_none_iff.2 sound)

/-- **A tree has no table exactly if a walk meets a faulty node or an identifier is repeated**, and
nothing else keeps it from having one. The fault is that of the first faulty node; where there is
none, it tells the first endpoint with the identifier of an endpoint before it, and that one. -/
theorem flatten_refuses (t : SchemaTree) :
    ((∃ fault, t.flatten = .error fault) ↔
      (∃ v, Meets t.root v ∧ v.node.Faulty) ∨ ∃ v w, Repeats t.root v w) ∧
    ∀ fault, t.flatten = .error fault ↔
      (∃ v, Meets t.root v ∧ OwnFault (pathTo t.address v.segments) v.node fault ∧
        ∀ u, Meets t.root u → u.places < v.places → ¬u.node.Faulty) ∨
      (∀ v, Meets t.root v → ¬v.node.Faulty) ∧ ∃ v w id, Repeats t.root v w ∧
        w.endpoint.endpoint = some id ∧
        (∀ v' w', Repeats t.root v' w' → ¬w'.places < w.places) ∧
        fault = .duplicateId id (pathTo t.address v.segments) (pathTo t.address w.segments) := by
  constructor
  · simp only [flatten_eq_error_iff]
    constructor
    · rintro ⟨f, faulty | ⟨-, repeated⟩⟩
      · obtain ⟨v, meets, own, -⟩ := firstFault?_eq_some_iff.1 faulty
        exact .inl ⟨v, meets, own.faulty⟩
      · obtain ⟨v, hv, w, hw, same, -⟩ := (firstRepeated?_sorted (pairwise_ways t.root)).1 repeated
        exact .inr ⟨v, w, repeats_iff.2 ⟨hv, hw, same⟩⟩
    · intro h
      cases walk : firstFault? t.address t.root.visits with
      | some f => exact ⟨f, .inl rfl⟩
      | none =>
        cases rows : firstRepeated? [] (t.root.ways.map (Way.row t.address)) with
        | some f => exact ⟨f, .inr ⟨rfl, rfl⟩⟩
        | none =>
          rcases h with ⟨v, meets, faulty⟩ | ⟨v, w, repeated⟩
          · exact absurd faulty (firstFault?_eq_none_iff.1 walk v meets)
          · obtain ⟨distinct, -⟩ := nodup_of_firstRepeated? rows
            rw [List.map_map] at distinct
            obtain ⟨hv, hw, less, same⟩ := repeats_iff.1 repeated
            obtain rfl := List.inj_on_of_nodup_map distinct hv hw same
            exact absurd less (List.lt_irrefl _)
  · intro fault
    rw [flatten_eq_error_iff, firstFault?_eq_some_iff, firstFault?_eq_none_iff,
      firstRepeated?_sorted (pairwise_ways t.root)]
    refine or_congr_right (and_congr_right fun _ => ?_)
    simp only [Way.path_row]
    constructor
    · rintro ⟨v, hv, w, hw, same, first, rfl⟩
      refine ⟨v, w, _, repeats_iff.2 ⟨hv, hw, same⟩, endpoint_of_leads (mem_ways.1 hw), ?_, rfl⟩
      intro v' w' repeated
      obtain ⟨hv', hw', again⟩ := repeats_iff.1 repeated
      exact first v' hv' w' hw' again
    · rintro ⟨v, w, id, repeated, named, first, rfl⟩
      obtain ⟨hv, hw, same⟩ := repeats_iff.1 repeated
      refine ⟨v, hv, w, hw, same, fun v' hv' w' hw' again => ?_, ?_⟩
      · exact first v' w' (repeats_iff.2 ⟨hv', hw', again⟩)
      · cases named.symm.trans (endpoint_of_leads (mem_ways.1 hw))
        rfl

/-- A tree with an identifier that is repeated, one below an endpoint that cannot name anything, and
a reserved key on a route without endpoints. -/
def crowded : SchemaTree where
  address := "/"
  root :=
    { attributes := []
      children :=
        [("a", ⟨[], [("old", ⟨[], [], some "_old", none⟩)], some "view", none⟩),
          ("b", ⟨[], [], some "view", none⟩),
          ("c", ⟨[.literal "lang" .null, .literal "method" .null], [], none, none⟩)]
      endpoint := none
      method := none }

example : Outcome.fault? crowded.flatten = some (.reservedKey "method") := by decide +kernel

end RouteSchema
