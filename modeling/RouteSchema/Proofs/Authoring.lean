import RouteSchema.Proofs.Accepting

/-!
# Documents as operations

What a document describes can be declared step by step as well. The operations of a document visit
it in its order: the attributes of a route, a block for each route in it, and a single operation for
each endpoint.

* `Document.operations`: the operations of a document. `Document.Direct` says which nodes operations
  can declare.
* `endingsAll`: how the operations of a run end, those in blocks included. `Smooth` tells from the
  operations alone that all of them return: `endings_of_smooth`.
* `Node.withMethods`: a built tree has a method at every endpoint. This is all that tells it from
  the tree of the document (`operations_of_document`), and a table does not show it
  (`definitions_withMethods`).
* `operations_agree`: a document and its operations have the same table, or the same fault.
-/

namespace RouteSchema

open Stateful

/-! ## Runs without failures -/

mutual

/-- How an operation ends, behind the endings of the operations in it. -/
def Operation.endings (op : Operation) (b : Builder) : List Ending :=
  (match op with
    | .block segment attributes body _ =>
      endingsAll body (outcome (Builder.openRoute segment attributes) b).2
    | _ => []) ++ [(op.run b).1]

/-- How operations end that are performed one after the other. -/
def endingsAll : List Operation → Builder → List Ending
  | [], _ => []
  | op :: rest, b => op.endings b ++ endingsAll rest (op.run b).2

end

/-- Operations in a route where some segments may be taken: none of them is used again, every
endpoint is valid, and so are the operations in blocks. -/
inductive Smooth : List String → List Operation → Prop
  | nil {taken : List String} : Smooth taken []
  | literal {taken : List String} {key : String} {value : Value} {rest : List Operation}
      (later : Smooth taken rest) : Smooth taken (.literal key value :: rest)
  | endpoint {taken : List String} {segment : String} {identifier method : Value}
      {attributes : Assoc String Value} {rest : List Operation} (free : segment ∉ taken)
      (valid : (Node.fields identifier method).isOk = true)
      (later : Smooth (segment :: taken) rest) :
      Smooth taken (.endpoint segment identifier method attributes :: rest)
  | block {taken : List String} {segment : String} {attributes : Assoc String Value}
      {body rest : List Operation} (free : segment ∉ taken) (inside : Smooth [] body)
      (later : Smooth (segment :: taken) rest) :
      Smooth taken (.block segment attributes body false :: rest)

/-- An operation takes at most the segment of the child that it declares. -/
theorem taken_run {op : Operation} {b : Builder} {taken : List String}
    (known : ∀ s, b.innermost.children.contains s = true → s ∈ taken) {s : String}
    (h : (op.run b).2.innermost.children.contains s = true) :
    s ∈ taken ∨ ∃ n, op.child? b.scope = some (s, n) := by
  rw [(run_eq op b).1, extend_eq, Assoc.contains_iff_mem_keys] at h
  simp only [Builder.within, Assoc.keys, List.map_append, List.mem_append, List.mem_map] at h
  rcases h with h | ⟨⟨_, n⟩, hc, rfl⟩
  · exact .inl (known s (Assoc.contains_iff_mem_keys.2 (List.mem_map.2 h)))
  · exact .inr ⟨n, Option.mem_toList.1 (List.mem_filter.1 hc).1⟩

theorem free_of_not_mem {b : Builder} {taken : List String} {segment : String}
    (known : ∀ s, b.innermost.children.contains s = true → s ∈ taken) (free : segment ∉ taken) :
    b.innermost.children.contains segment = false :=
  eq_false_of_ne_true fun h => free (known segment h)

/-- Smooth operations all return. -/
theorem endings_of_smooth {taken : List String} {ops : List Operation} (h : Smooth taken ops)
    {b : Builder} (known : ∀ s, b.innermost.children.contains s = true → s ∈ taken) :
    ∀ e ∈ endingsAll ops b, e = .returned := by
  induction h generalizing b with
  | nil => exact fun e he => absurd he List.not_mem_nil
  | literal later ih =>
    simp only [endingsAll, Operation.endings, List.nil_append]
    refine List.forall_mem_append.2 ⟨List.forall_mem_singleton.2 ?_, ih fun s hs => ?_⟩
    · exact (run_eq _ b).2.2 rfl
    · rcases taken_run known hs with hs | ⟨n, child⟩
      · exact hs
      · cases child
  | @endpoint taken segment identifier method attributes rest free valid later ih =>
    simp only [endingsAll, Operation.endings, List.nil_append]
    refine List.forall_mem_append.2 ⟨List.forall_mem_singleton.2 ?_, ih fun s hs => ?_⟩
    · refine (run_eq _ b).2.2 ?_
      rw [Operation.fails, valid, free_of_not_mem known free]
      rfl
    · rcases taken_run known hs with hs | ⟨n, child⟩
      · exact List.mem_cons_of_mem _ hs
      · rw [Operation.child?] at child
        split at child
        · cases child
          exact List.mem_cons_self
        · cases child
  | @block taken segment attributes body rest free inside later ihBody ih =>
    rw [endingsAll, Operation.endings, Builder.outcome_openRoute]
    have fresh : ∀ s, Assoc.contains ([] : Assoc String Node) s = true → s ∈ ([] : List String) :=
      fun _ taken => absurd taken Bool.false_ne_true
    refine List.forall_mem_append.2 ⟨List.forall_mem_append.2 ⟨ihBody fresh,
      List.forall_mem_singleton.2 ?_⟩, ih fun s hs => ?_⟩
    · refine (run_eq _ b).2.2 ?_
      rw [Operation.fails, free_of_not_mem known free]
      rfl
    · rcases taken_run known hs with hs | ⟨n, child⟩
      · exact List.mem_cons_of_mem _ hs
      · rw [Operation.child?] at child
        cases child
        exact List.mem_cons_self

/-! ## Given methods -/

namespace Node

mutual

/-- A node with a method at every endpoint, the default one where none is given. -/
def withMethods : Node → Node
  | ⟨own, children, some id, method⟩ => ⟨own, children, some id, some (method.getD .get)⟩
  | ⟨own, children, none, method⟩ => ⟨own, withMethodsAll children, none, method⟩

/-- Children with a method at every endpoint. -/
def withMethodsAll : List (String × Node) → List (String × Node)
  | [] => []
  | (segment, child) :: rest => (segment, child.withMethods) :: withMethodsAll rest

end

theorem keys_withMethodsAll (children : List (String × Node)) :
    Assoc.keys (withMethodsAll children) = Assoc.keys children := by
  induction children with
  | nil => rw [withMethodsAll]
  | cons c rest ih =>
    rw [withMethodsAll]
    exact congrArg (c.1 :: ·) ih

end Node

mutual

/-- A definition has the default method where none is given. -/
theorem definitions_withMethods : ∀ (n : Node) (path : String) (inherited : Assoc String Attribute),
    n.withMethods.definitions path inherited = n.definitions path inherited
  | ⟨own, children, some id, method⟩, path, inherited => by
    rw [Node.withMethods, Node.definitions, Node.definitions]
    rfl
  | ⟨own, children, none, method⟩, path, inherited => by
    rw [Node.withMethods, Node.definitions, Node.definitions]
    refine bind_congr fun attributes => ?_
    exact definitionsBelow_withMethodsAll children path attributes

theorem definitionsBelow_withMethodsAll : ∀ (children : List (String × Node)) (path : String)
    (inherited : Assoc String Attribute),
    definitionsBelow path inherited (Node.withMethodsAll children) =
      definitionsBelow path inherited children
  | [], path, inherited => by rw [Node.withMethodsAll]
  | (segment, child) :: rest, path, inherited => by
    rw [Node.withMethodsAll, definitionsBelow, definitionsBelow, definitions_withMethods child,
      definitionsBelow_withMethodsAll rest]

end

/-! ## The operations of a document -/

namespace Document

/-- The method that an endpoint is declared with, the default one where none is given. -/
def givenMethod (entries : Dict) : Value :=
  match Dict.getText? entries "method" with
  | none | some .null => .text Method.get.verb
  | some v => v

/-- The attributes of a node by the texts of their keys. -/
def ownAttributes (entries : Dict) : Assoc String Value :=
  byText ((part? entries "attributes").getD [])

/-- The operation that declares a node at a segment: a single one for an endpoint, and a block with
the operations inside for any other. -/
def declaring (segment : String) (inside : List Operation) : Value → Operation
  | .dict entries =>
    match (Dict.getText? entries "endpoint").bind Value.text? with
    | some id => .endpoint segment (.text id) (givenMethod entries) (ownAttributes entries)
    | none => .block segment [] inside false
  | _ => .block segment [] inside false

mutual

/-- The operations that declare what a document or a route holds: its attributes, and then its
routes. -/
def operations (v : Value) : List Operation :=
  match v with
  | .dict entries =>
    (ownAttributes entries).map (fun e => .literal e.1 e.2) ++
      match _found : part? entries "routes" with
      | none => []
      | some routes => routeOperations routes
  | _ => []
termination_by sizeOf v
decreasing_by exact sizeOf_lt_of_part? _found

/-- The operations that declare routes. -/
def routeOperations (routes : List (Value × Value)) : List Operation :=
  match routes with
  | [] => []
  | (segment, v) :: rest => declaring segment.display (operations v) v :: routeOperations rest
termination_by sizeOf routes

end

/-- The keys of a mapping are texts, each of them once. -/
def TextKeys (m : Dict) : Prop := (Assoc.keys m).Nodup ∧ ∀ e ∈ m, ∃ name, e.1 = .text name

/-- The names that the declaration of an endpoint uses itself. -/
def ownNames : List String := ["self", "segment", "endpoint_id", "method"]

/-- The nodes that operations can declare: with texts for keys, with literal attributes, and with
nothing below endpoints. -/
structure Direct (entries : Dict) : Prop where
  attributes : ∀ own, part? entries "attributes" = some own → TextKeys own
  literal : ∀ own, part? entries "attributes" = some own → ∀ e ∈ own, ∀ es, e.2 = .dict es →
    Dict.getText? es "$env" = none ∧ Dict.getText? es "$file" = none
  routes : ∀ routes, part? entries "routes" = some routes → TextKeys routes
  leaf : ∀ id, Dict.getText? entries "endpoint" = some (.text id) → part? entries "routes" = some []
  named : ∀ id, Dict.getText? entries "endpoint" = some (.text id) →
    ∀ name ∈ ownNames, name ∉ Assoc.keys (ownAttributes entries)

theorem operations_dict {entries routes : Dict} (under : part? entries "routes" = some routes) :
    operations (.dict entries) =
      (ownAttributes entries).map (fun e => .literal e.1 e.2) ++ routeOperations routes := by
  rw [operations]
  split
  · rename_i missing
    cases under.symm.trans missing
  · rename_i found
    cases under.symm.trans found
    rfl

/-- Different texts are different segments. -/
theorem TextKeys.nodup {m : Dict} (h : TextKeys m) : (Assoc.keys (byText m)).Nodup := by
  obtain ⟨nodup, texts⟩ := h
  have displayed : Assoc.keys (byText m) = (Assoc.keys m).map Value.display := by
    simp [Assoc.keys, byText]
  rw [displayed]
  refine List.pairwise_map.2 (nodup.imp_of_mem fun {k k'} hk hk' other same => other ?_)
  obtain ⟨e, he, rfl⟩ := List.mem_map.1 hk
  obtain ⟨e', he', rfl⟩ := List.mem_map.1 hk'
  obtain ⟨name, text⟩ := texts e he
  obtain ⟨name', text'⟩ := texts e' he'
  rw [text, text'] at same ⊢
  exact congrArg Value.text same

/-- Attributes that are not looked up are literal. -/
theorem attributes_eq [Platform] {location : String} {own : Dict} {attributes : List Attribute}
    (literal : ∀ e ∈ own, ∀ es, e.2 = .dict es →
      Dict.getText? es "$env" = none ∧ Dict.getText? es "$file" = none)
    (h : own.mapM (declaration location) = .ok attributes) :
    attributes = Builder.literals (byText own) := by
  refine Except.ok.inj (h.symm.trans (Outcome.mapM_eq_ok.2 ?_))
  rw [Builder.literals, byText, List.map_map, List.forall₂_map_right_iff, List.forall₂_same]
  intro e he
  have named := (exists_declaration_iff.1
    (exists_forall₂_iff.1 ⟨_, Outcome.mapM_eq_ok.1 h⟩ e he)).2 e.1 List.mem_cons_self
  refine Outcome.bind_eq_ok.2 ⟨_, named.asText, Outcome.bind_eq_ok.2 ⟨none, ?_, rfl⟩⟩
  obtain ⟨key, v⟩ := e
  cases v with
  | dict es =>
    obtain ⟨plain, present⟩ := literal _ he es rfl
    rw [source?, plain, present]
  | _ => rfl

/-- Only the null value is no method. -/
theorem exists_of_methodField {v : Value} {m : Option Method} (given : v ≠ .null)
    (h : Node.methodField v = .ok m) : ∃ method, m = some method := by
  unfold Node.methodField at h
  split at h
  · exact absurd rfl given
  · rename_i s
    cases found : Method.ofVerb? (Text.upper s) with
    | none => simp [found] at h
    | some method => exact ⟨method, by simpa [found] using h.symm⟩
  · obtain ⟨method, -, rfl⟩ := Outcome.map_eq_ok.1 h
    exact ⟨method, rfl⟩

theorem attributes_of_direct [Platform] {location : String} {entries : Dict} {n : Node}
    (read : node location (.dict entries) = .ok n) (direct : Direct entries) :
    n.attributes = Builder.literals (ownAttributes entries) := by
  obtain ⟨own, -, -, -, has, attributes, -⟩ := node_eq_ok_iff.1 read
  rw [attributes_eq (direct.literal own has) attributes, ownAttributes, has, Option.getD_some]

/-- The method that an endpoint is declared with is the one that its definition has. -/
theorem methodField_givenMethod {entries : Dict} {m : Option Method}
    (h : Node.methodField ((Dict.getText? entries "method").getD .null) = .ok m) :
    Node.methodField (givenMethod entries) = .ok (some (m.getD .get)) := by
  have default : Node.methodField (.text Method.get.verb) = .ok (some .get) := by decide +kernel
  rw [givenMethod]
  split
  · rename_i missing
    rw [missing] at h
    cases h
    exact default
  · rename_i empty
    rw [empty] at h
    cases h
    exact default
  · rename_i v given found
    rw [found, Option.getD_some] at h
    obtain ⟨method, rfl⟩ := exists_of_methodField given h
    exact h

/-- Operations declare a node, with a method at every endpoint in it, and return as long as its
segment is free. -/
structure Builds (v : Value) (n : Node) : Prop where
  child : ∀ segment scope,
    (declaring segment (operations v) v).child? scope = some (segment, n.withMethods)
  smooth : ∀ {segment taken rest}, segment ∉ taken → Smooth (segment :: taken) rest →
    Smooth taken (declaring segment (operations v) v :: rest)

section Routes

variable {routes : Dict} {children : List (String × Node)}
  (each : List.Forall₂ (fun e c => c.1 = e.1.display ∧ Builds e.2 c.2) routes children)
include each

theorem childrenOf_routeOperations (scope : List String) :
    childrenOf scope (routeOperations routes) = Node.withMethodsAll children := by
  induction each with
  | nil => rw [routeOperations, childrenOf, Node.withMethodsAll]
  | @cons e c _ _ first _ ih =>
    obtain ⟨segment, builds⟩ := first
    rw [routeOperations, childrenOf, builds.child, ih, Node.withMethodsAll, segment]
    rfl

theorem smooth_routeOperations {taken : List String} (nodup : (Assoc.keys (byText routes)).Nodup)
    (free : ∀ segment ∈ Assoc.keys (byText routes), segment ∉ taken) :
    Smooth taken (routeOperations routes) := by
  induction each generalizing taken with
  | nil =>
    rw [routeOperations]
    exact .nil
  | @cons e c _ _ first _ ih =>
    obtain ⟨own, others⟩ := List.nodup_cons.1 nodup
    obtain ⟨first_free, others_free⟩ := List.forall_mem_cons.1 free
    rw [routeOperations]
    refine first.2.smooth first_free (ih others fun segment h => ?_)
    rw [List.mem_cons, not_or]
    exact ⟨ne_of_mem_of_not_mem h own, others_free segment h⟩

theorem keys_of_builds : Assoc.keys children = Assoc.keys (byText routes) := by
  induction each with
  | nil => rfl
  | cons first _ ih =>
    show _ :: Assoc.keys _ = _ :: Assoc.keys _
    rw [first.1, ih]
    rfl

end Routes

theorem declared?_declaring (scope : List String) (segment : String) (inside : List Operation)
    (v : Value) : (declaring segment inside v).declared? scope = none := by
  unfold declaring
  split
  · split <;> rfl
  · rfl

/-- The attributes that the operations of a node declare are its own. -/
theorem filterMap_declared? (scope : List String) (attributes : Assoc String Value)
    (routes : Dict) :
    (attributes.map (fun e => Operation.literal e.1 e.2) ++ routeOperations routes).filterMap
      (Operation.declared? scope) = Builder.literals attributes := by
  have below : (routeOperations routes).filterMap (Operation.declared? scope) = [] := by
    induction routes with
    | nil => rw [routeOperations, List.filterMap_nil]
    | cons e rest ih => rw [routeOperations, List.filterMap_cons, declared?_declaring, ih]
  rw [List.filterMap_append, below, List.append_nil, List.filterMap_map]
  show attributes.filterMap (some ∘ fun e => Attribute.literal e.1 e.2) = _
  rw [List.filterMap_eq_map]
  rfl

theorem childrenOf_literals (scope : List String) (attributes : Assoc String Value)
    (ops : List Operation) :
    childrenOf scope (attributes.map (fun e => Operation.literal e.1 e.2) ++ ops) =
      childrenOf scope ops := by
  induction attributes with
  | nil => rfl
  | cons e rest ih => rw [List.map_cons, List.cons_append, childrenOf, ih]; rfl

theorem firstOfEach_of_nodup {children : Assoc String Node} (h : (Assoc.keys children).Nodup) :
    firstOfEach children = children := by
  induction children with
  | nil => rfl
  | cons c rest ih =>
    obtain ⟨own, others⟩ := List.nodup_cons.1 h
    have all : rest.filter (fun b => (b.1 == c.1) = false) = rest := by
      refine List.filter_eq_self.2 fun b hb => ?_
      simpa using fun same : b.1 = c.1 => own (same ▸ List.mem_map_of_mem hb)
    rw [firstOfEach, List.eraseDupsBy_cons, all]
    exact congrArg _ (ih others)

theorem smooth_literals {taken : List String} {ops : List Operation} (h : Smooth taken ops)
    (attributes : Assoc String Value) :
    Smooth taken (attributes.map (fun e => Operation.literal e.1 e.2) ++ ops) := by
  induction attributes with
  | nil => exact h
  | cons e rest ih => exact .literal ih

/-- The operations of a route that is read build its node, and all of them return. -/
theorem operations_of_route [Platform] {location : String} {entries : Dict} {n : Node}
    (read : node location (.dict entries) = .ok n) (route : n.endpoint = none)
    (direct : Direct entries)
    (below : ∀ routes, part? entries "routes" = some routes → ∀ e ∈ routes, ∀ {c : Node},
      node (childLocation location e.1.display) e.2 = .ok c → Builds e.2 c) :
    Smooth [] (operations (.dict entries)) ∧
      ∀ scope, blockNode scope [] (operations (.dict entries)) = n.withMethods := by
  obtain ⟨-, routes, children, -, -, -, under, nodes, same, labelled⟩ := node_eq_ok_iff.1 read
  have each : List.Forall₂ (fun e c => c.1 = e.1.display ∧ Builds e.2 c.2) routes children := by
    have read := (List.forall₂_and_left _ _).2 ⟨fun _ => id, (nodes_eq_ok_iff.1 nodes).2⟩
    refine read.imp ?_
    rintro e c ⟨member, segment, child⟩
    exact ⟨segment, below routes under e member child⟩
  have nodup := (direct.routes routes under).nodup
  have distinct : (Assoc.keys children).Nodup := keys_of_builds each ▸ nodup
  have kept : n.children = children := same.trans (Assoc.overlay_of_nodup distinct)
  have literal := attributes_of_direct read direct
  have first : firstOfEach (Node.withMethodsAll children) = Node.withMethodsAll children := by
    refine firstOfEach_of_nodup ?_
    rwa [Node.keys_withMethodsAll]
  rw [operations_dict under]
  refine ⟨smooth_literals (smooth_routeOperations each nodup fun _ _ => List.not_mem_nil) _,
    fun scope => ?_⟩
  rw [blockNode, filterMap_declared?, childrenOf_literals, childrenOf_routeOperations each, first,
    ← kept, ← literal]
  obtain ⟨declared, kids, endpoint, method⟩ := n
  cases route
  cases labelled
  rw [Node.withMethods]
  rfl

/-- The operation of an endpoint that is read declares its node. -/
theorem fields_of_endpoint [Platform] {location : String} {entries : Dict} {n : Node}
    {id : String}
    (read : node location (.dict entries) = .ok n) (endpoint : n.endpoint = some id)
    (direct : Direct entries) :
    ∃ m, Node.fields (.text id) (givenMethod entries) = .ok (some id, m) ∧
      n.withMethods = ⟨Builder.literals (ownAttributes entries), [], some id, m⟩ := by
  obtain ⟨-, routes, children, -, -, -, under, nodes, same, labelled⟩ := node_eq_ok_iff.1 read
  have literal := attributes_of_direct read direct
  obtain ⟨declared, kids, _, method⟩ := n
  cases endpoint
  cases literal
  cases labelled with
  | endpoint named valid =>
    cases under.symm.trans (direct.leaf id named)
    obtain rfl := List.forall₂_nil_left_iff.1 (nodes_eq_ok_iff.1 nodes).2
    cases same
    exact ⟨some (method.getD .get), fields_eq_ok_iff.2 ⟨rfl, methodField_givenMethod valid⟩,
      by rw [Node.withMethods]; rfl⟩

/-- What a value is read as is built by the operation that declares it. -/
theorem builds_node [Platform] {location : String} {v : Value} {n : Node}
    (direct : EveryNode Direct v)
    (read : node location v = .ok n) : Builds v n := by
  induction v using node_induction generalizing location n with
  | other v leaf =>
    obtain ⟨entries, -, -, -, rfl, -⟩ := node_eq_ok read
    cases leaf
  | mapping entries ih =>
    obtain ⟨own, inside⟩ := everyNode_dict_iff.1 direct
    have below : ∀ routes, part? entries "routes" = some routes → ∀ e ∈ routes, ∀ {c : Node},
        node (childLocation location e.1.display) e.2 = .ok c → Builds e.2 c := fun routes under e he =>
      ih routes under e he (inside routes under e he)
    have named := (endpoint_of_node read).symm
    cases kind : n.endpoint with
    | none =>
      obtain ⟨smooth, built⟩ := operations_of_route read kind own below
      rw [kind] at named
      refine ⟨fun segment scope => ?_, fun free later => ?_⟩
      · rw [declaring, named]
        dsimp only
        rw [Operation.child?, ← built (scope ++ [segment])]
        rfl
      · rw [declaring, named]
        exact .block free smooth later
    | some id =>
      obtain ⟨m, fields, built⟩ := fields_of_endpoint read kind own
      rw [kind] at named
      refine ⟨fun segment scope => ?_, fun free later => ?_⟩
      · rw [declaring, named]
        dsimp only
        rw [Operation.child?, fields, built]
      · rw [declaring, named]
        exact .endpoint free (by rw [fields]; rfl) later

/-! ## Agreement -/

theorem getText?_eq_none {entries : Dict} {allowed : List String} {key : String}
    (keys : ∀ e ∈ entries, ∃ key ∈ allowed, e.1 = .text key) (other : key ∉ allowed) :
    Dict.getText? entries key = none := by
  induction entries with
  | nil => rfl
  | cons e rest ih =>
    obtain ⟨first, others⟩ := List.forall_mem_cons.1 keys
    obtain ⟨k, v⟩ := e
    obtain ⟨name, known, rfl⟩ := first
    rw [Dict.getText?_cons, if_neg (ne_of_mem_of_not_mem known other), ih others]

/-- The rest of a document can be declared where the document can. -/
theorem Direct.erase_root {entries : Dict} (h : Direct entries) :
    Direct (Assoc.erase entries (.text "root")) := by
  have attributes := part?_erase_root entries (by decide : "root" ≠ "attributes")
  have routes := part?_erase_root entries (by decide : "root" ≠ "routes")
  have endpoint := getText?_erase entries (by decide : "root" ≠ "endpoint")
  constructor
  · rw [attributes]
    exact h.attributes
  · rw [attributes]
    exact h.literal
  · rw [routes]
    exact h.routes
  · rw [endpoint, routes]
    exact h.leaf
  · rw [endpoint, ownAttributes, attributes]
    exact h.named

theorem operations_erase_root {entries routes : Dict}
    (under : part? (Assoc.erase entries (.text "root")) "routes" = some routes) :
    operations (.dict (Assoc.erase entries (.text "root"))) = operations (.dict entries) := by
  have own := under
  rw [part?_erase_root entries (by decide)] at own
  rw [operations_dict under, operations_dict own, ownAttributes,
    part?_erase_root entries (by decide), ← ownAttributes]

/-- The operations of a document build the node that it is read as. -/
theorem operations_of_document [Platform] {entries : Dict} {root : Node}
    (direct : EveryNode Direct (.dict entries))
    (keys : ∀ e ∈ entries, ∃ key ∈ rootKeys, e.1 = .text key)
    (read : node "/" (.dict (Assoc.erase entries (.text "root"))) = .ok root) :
    Smooth [] (operations (.dict entries)) ∧
      ∀ scope, blockNode scope [] (operations (.dict entries)) = root.withMethods := by
  have route : root.endpoint = none := by
    rw [endpoint_of_node read, getText?_erase entries (by decide),
      getText?_eq_none keys (by decide), Option.bind_none]
  obtain ⟨-, routes, -, -, -, -, under, -⟩ := node_eq_ok_iff.1 read
  rw [← operations_erase_root under]
  obtain ⟨own, inside⟩ := everyNode_dict_iff.1 direct
  refine operations_of_route read route own.erase_root fun routes under e he c child => ?_
  rw [part?_erase_root entries (by decide)] at under
  exact builds_node (inside routes under e he) child

/-- **A document and its operations say the same.** All of the operations return, those in blocks
included, and the tree that they build has the table of the document's own tree, or the same
fault. -/
theorem operations_agree [Platform] {doc : Value} {t : SchemaTree} (accepted : tree doc = .ok t)
    (direct : EveryNode Direct doc) :
    (∀ e ∈ endingsAll (operations doc) (.start t.address []), e = .returned) ∧
      ∃ made, (outcome (Builder.build "") (runAll (operations doc) (.start t.address []))).1 =
        .ok made ∧ made.flatten = t.flatten := by
  obtain ⟨entries, rfl, keys, -, -, read⟩ := tree_eq_ok_iff.1 accepted
  obtain ⟨smooth, node⟩ := operations_of_document direct keys read
  refine ⟨endings_of_smooth smooth nofun, ⟨t.address, t.root.withMethods⟩, ?_, ?_⟩
  · rw [runAll_eq, Builder.outcome_build, ← node [], ← node_after [] "", ← extendAll_eq_after]
    rfl
  · rw [SchemaTree.flatten, SchemaTree.flatten, definitions_withMethods]

/-- A document with attributes at every kind of node and a method in small letters. -/
def museum : Value := .dict
  [(.text "root", .text "https://svc.com"),
    (.text "attributes", .dict [(.text "lang", .text "en")]),
    (.text "routes", .dict
      [(.text "rooms", .dict
          [(.text "attributes", .dict [(.text "floor", .int 2), (.text "lang", .null)]),
            (.text "routes", .dict
              [(.text "{id}", .dict
                  [(.text "endpoint", .text "move"), (.text "method", .text "put"),
                    (.text "attributes", .dict [(.text "slow", .bool true)])]),
                (.text "", .dict [(.text "endpoint", .text "rooms")])])]),
        (.text "shop", .dict [(.text "endpoint", .text "shop")])])]

theorem direct_museum : EveryNode Direct museum := by
  simp only [museum, everyNode_dict_iff, part?, Dict.getText?_cons, String.reduceEq, ↓reduceIte,
    Dict.getText?_nil, Value.truthy, List.isEmpty_cons, Bool.not_false, Value.dict?,
    Option.some.injEq, forall_eq', List.forall_mem_cons, List.not_mem_nil, IsEmpty.forall_iff,
    implies_true, and_true]
  refine ⟨?_, ⟨?_, ?_, ?_⟩, ?_⟩
  all_goals
    constructor <;>
      simp [part?, Value.truthy, Value.dict?, TextKeys, ownAttributes, byText, ownNames, Assoc.keys,
        Value.display, List.forall_mem_cons, List.mem_singleton, -List.mem_cons, -Prod.forall]

theorem operations_agree_museum :
    let _ : Platform := .usual
    ∃ t, tree museum = .ok t ∧ EveryNode Direct museum ∧
      (∀ e ∈ endingsAll (operations museum) (.start t.address []), e = .returned) ∧
      ∃ made, (outcome (Builder.build "") (runAll (operations museum) (.start t.address []))).1 =
        .ok made ∧ made.flatten = t.flatten ∧
        made.flatten.map (·.map fun d => (d.id, d.method)) =
          .ok [("move", .put), ("rooms", .get), ("shop", .get)] := by
  intro _
  obtain ⟨t, read, rows⟩ : ∃ t, @tree .usual museum = .ok t ∧
      t.flatten.map (·.map fun d => (d.id, d.method)) =
        .ok [("move", .put), ("rooms", .get), ("shop", .get)] :=
    Outcome.exists_of_toOption_map (by decide +kernel)
  obtain ⟨returned, made, build, agree⟩ := operations_agree read direct_museum
  exact ⟨t, read, direct_museum, returned, made, build, agree, agree ▸ rows⟩

end Document

end RouteSchema
