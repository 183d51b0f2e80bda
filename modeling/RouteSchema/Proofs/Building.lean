import RouteSchema.Builder
import RouteSchema.Proofs.Flattening
import RouteSchema.Proofs.Sequencing

/-!
# Building in blocks

A program that builds a tree opens and closes routes in blocks. A block may be left by an exception,
and any operation may be refused; the program goes on wherever it catches what was raised. What it
has built is told from its blocks alone, without the builder's stack of open routes.

* `Operation.run` performs an operation on a builder; `Operation.extend` says what it adds to the
  route it is made in.
* `blockNode` is the node of a block, told from the operations in it alone.
* `run_eq`: an operation leaves the open routes alone and extends the innermost one.
* `throughout_extend`: a computed attribute keeps the environment of its place.
* `run_builds`: what a run of operations leaves behind, and the tree it builds.
-/

namespace RouteSchema

open Stateful

/-- An operation on a builder. A block holds the operations made in it, and tells whether it is left
by an exception. -/
inductive Operation
  | literal (key : String) (value : Value)
  | runtime (key : String) (expression : Dict → Eval Value) (bindings : Dict)
  | endpoint (segment : String) (identifier method : Value) (attributes : Assoc String Value)
  | build (address : String)
  | block (segment : String) (attributes : Assoc String Value) (body : List Operation)
      (raised : Bool)

/-- How an operation ends. -/
inductive Ending
  | returned
  | refused (fault : AuthoringFault)
  /-- An exception of the application goes through. -/
  | raised

/-- How a step of building ends, and the builder it leaves. -/
def Ending.of {α : Type} : Except AuthoringFault α × Builder → Ending × Builder
  | (.ok _, b) => (.returned, b)
  | (.error fault, b) => (.refused fault, b)

mutual

/-- Performs an operation. -/
def Operation.run : Operation → Builder → Ending × Builder
  | .literal key value, b => Ending.of (outcome (Builder.literal key value) b)
  | .runtime key expression bindings, b =>
    Ending.of (outcome (Builder.runtime key expression bindings) b)
  | .endpoint segment identifier method attributes, b =>
    Ending.of (outcome (Builder.endpoint segment identifier method attributes) b)
  | .build address, b => Ending.of (outcome (Builder.build address) b)
  | .block segment attributes body raised, b =>
    let inside := runAll body (outcome (Builder.openRoute segment attributes) b).2
    if raised then (.raised, (outcome Builder.abandonRoute inside).2)
    else Ending.of (outcome Builder.closeRoute inside)

/-- Performs operations one after the other, however each of them ends. -/
def runAll : List Operation → Builder → Builder
  | [], b => b
  | op :: rest, b => runAll rest (op.run b).2

end

/-! ## What operations declare -/

/-- The environment of an attribute that is computed: the routes open at its declaration, with the
bindings over them. -/
def environmentAt (scope : List String) (bindings : Dict) : Dict :=
  Assoc.overlay [(.text "scope", .tuple (scope.map .text))] bindings

/-- An attribute that is computed in the environment of its declaration. -/
def Attribute.computedAt (scope : List String) (key : String) (expression : Dict → Eval Value)
    (bindings : Dict) : Attribute :=
  .deferred key expression (pure (environmentAt scope bindings))

/-- Whether an operation fails that is made in a route, with the given routes open. -/
def Operation.fails (scope : List String) (r : Scope) : Operation → Bool
  | .literal _ _ | .runtime _ _ _ => false
  | .endpoint segment identifier method _ =>
    !(Node.fields identifier method).isOk || r.children.contains segment
  | .build _ => !scope.isEmpty
  | .block segment _ _ raised => raised || r.children.contains segment

/-- A route with one more attribute. -/
def Scope.declare (r : Scope) (a : Attribute) : Scope :=
  { r with attributes := r.attributes ++ [a] }

/-- A route with one more child. -/
def Scope.add (r : Scope) (segment : String) (n : Node) : Scope :=
  { r with children := r.children ++ [(segment, n)] }

mutual

/-- A route after an operation in it. One that fails adds nothing; any other adds what it declares
behind what the route holds. -/
def Operation.extend (scope : List String) (r : Scope) (op : Operation) : Scope :=
  if op.fails scope r then r
  else
    match op with
    | .literal key value => r.declare (.literal key value)
    | .runtime key expression bindings => r.declare (.computedAt scope key expression bindings)
    | .endpoint segment identifier method attributes =>
      match Node.fields identifier method with
      | .ok (id, m) => r.add segment ⟨Builder.literals attributes, [], id, m⟩
      | .error _ => r
    | .build _ => r
    | .block segment attributes body _ =>
      r.add segment
        (extendAll (scope ++ [segment]) ⟨segment, Builder.literals attributes, []⟩ body).node

/-- A route after operations in it. -/
def extendAll (scope : List String) (r : Scope) : List Operation → Scope
  | [] => r
  | op :: rest => extendAll scope (op.extend scope r) rest

end

@[simp] theorem segment_extend (scope : List String) (r : Scope) (op : Operation) :
    (op.extend scope r).segment = r.segment := by
  unfold Operation.extend
  split
  · rfl
  · cases op with
    | endpoint segment identifier method attributes =>
      cases h : Node.fields identifier method <;> simp [h, Scope.add]
    | _ => rfl

@[simp] theorem segment_extendAll (scope : List String) (r : Scope) (ops : List Operation) :
    (extendAll scope r ops).segment = r.segment := by
  induction ops generalizing r with
  | nil => rw [extendAll]
  | cons op rest ih => rw [extendAll, ih, segment_extend]

/-! ## The node of a block -/

/-- The attribute that an operation declares, with the given routes open. -/
def Operation.declared? (scope : List String) : Operation → Option Attribute
  | .literal key value => some (.literal key value)
  | .runtime key expression bindings => some (.computedAt scope key expression bindings)
  | .endpoint _ _ _ _ | .build _ | .block _ _ _ _ => none

/-- The first of the children at every segment. -/
def firstOfEach (children : Assoc String Node) : Assoc String Node :=
  children.eraseDupsBy (·.1 == ·.1)

mutual

/-- The child that an operation declares, unless its segment is taken, with the given routes open.
A block left by an exception declares none, and neither does an endpoint with faults. -/
def Operation.child? (scope : List String) : Operation → Option (String × Node)
  | .endpoint segment identifier method attributes =>
    match Node.fields identifier method with
    | .ok (id, m) => some (segment, ⟨Builder.literals attributes, [], id, m⟩)
    | .error _ => none
  | .block segment attributes body raised =>
    if raised then none
    else some (segment,
      ⟨Builder.literals attributes ++ body.filterMap (Operation.declared? (scope ++ [segment])),
        firstOfEach (childrenOf (scope ++ [segment]) body), none, none⟩)
  | .literal _ _ | .runtime _ _ _ | .build _ => none

/-- The children that operations declare. -/
def childrenOf (scope : List String) : List Operation → Assoc String Node
  | [] => []
  | op :: rest => (op.child? scope).toList ++ childrenOf scope rest

end

/-- The node of a block: the attributes declared in it behind those it begins with, and the first
child at every segment. -/
def blockNode (scope : List String) (attributes : Assoc String Value) (body : List Operation) :
    Node :=
  ⟨Builder.literals attributes ++ body.filterMap (Operation.declared? scope),
    firstOfEach (childrenOf scope body), none, none⟩

/-- One child more, and then the others. -/
theorem firstOfEach_filter_append (taken : Assoc String Node) (new : Option (String × Node))
    (others : Assoc String Node) :
    taken ++ firstOfEach ((new.toList ++ others).filter (!taken.contains ·.1)) =
      (taken ++ new.toList.filter (!taken.contains ·.1)) ++
        firstOfEach (others.filter
          (!(taken ++ new.toList.filter (!taken.contains ·.1)).contains ·.1)) := by
  cases new with
  | none => simp
  | some c =>
    by_cases h : taken.contains c.1
    · simp [h]
    · have rest : (others.filter (!taken.contains ·.1)).filter (fun b => (b.1 == c.1) = false) =
          others.filter (!(taken ++ [c]).contains ·.1) := by
        rw [List.filter_filter]
        refine List.filter_congr fun b _ => ?_
        by_cases same : c.1 = b.1
        · simp [Assoc.contains, same]
        · simp [Assoc.contains, same, Ne.symm same]
      have kept : [c].filter (!taken.contains ·.1) = [c] := by simp [h]
      rw [Option.toList_some, List.filter_append, kept, List.singleton_append, firstOfEach,
        List.eraseDupsBy_cons, rest, List.append_assoc]
      rfl

/-- A route after a block of operations in it. -/
def Scope.after (r : Scope) (scope : List String) (ops : List Operation) : Scope where
  segment := r.segment
  attributes := r.attributes ++ ops.filterMap (Operation.declared? scope)
  children := r.children ++ firstOfEach ((childrenOf scope ops).filter (!r.children.contains ·.1))

theorem node_after (scope : List String) (segment : String) (attributes : Assoc String Value)
    (ops : List Operation) :
    (Scope.after ⟨segment, Builder.literals attributes, []⟩ scope ops).node =
      blockNode scope attributes ops := by
  have all : (childrenOf scope ops).filter (!Assoc.contains ([] : Assoc String Node) ·.1) =
      childrenOf scope ops :=
    List.filter_eq_self.2 fun _ _ => rfl
  rw [Scope.after, Scope.node, all]
  rfl

mutual

theorem extend_eq (scope : List String) (r : Scope) : ∀ op : Operation, op.extend scope r =
    ⟨r.segment, r.attributes ++ (op.declared? scope).toList,
      r.children ++ (op.child? scope).toList.filter (!r.children.contains ·.1)⟩
  | .literal key value => by
    rw [Operation.extend, Operation.fails, Operation.declared?, Operation.child?]
    simp [Scope.declare]
  | .runtime key expression bindings => by
    rw [Operation.extend, Operation.fails, Operation.declared?, Operation.child?]
    simp [Scope.declare]
  | .endpoint segment identifier method attributes => by
    rw [Operation.extend, Operation.fails, Operation.declared?, Operation.child?]
    cases Node.fields identifier method with
    | error faults => simp [Except.isOk, Except.toBool]
    | ok fields =>
      by_cases taken : r.children.contains segment
      · simp [Except.isOk, Except.toBool, taken]
      · simp [Except.isOk, Except.toBool, taken, Scope.add]
  | .build address => by
    rw [Operation.extend, Operation.declared?, Operation.child?]
    simp
  | .block segment attributes body raised => by
    rw [Operation.extend, Operation.fails, Operation.declared?, Operation.child?,
      extendAll_eq_after (scope ++ [segment]) _ body, node_after]
    cases raised with
    | true => simp
    | false =>
      by_cases taken : r.children.contains segment
      · simp [taken]
      · simp [taken, Scope.add, blockNode]

/-- Operations add their attributes, and their children at segments that are not taken, the first
at every one. -/
theorem extendAll_eq_after (scope : List String) : ∀ (r : Scope) (ops : List Operation),
    extendAll scope r ops = r.after scope ops
  | r, [] => by
    rw [extendAll, Scope.after, childrenOf]
    simp [firstOfEach]
  | r, op :: rest => by
    rw [extendAll, extendAll_eq_after scope _ rest, extend_eq, Scope.after, Scope.after, childrenOf,
      firstOfEach_filter_append, List.filterMap_cons]
    cases op.declared? scope <;> simp

end

/-! ## The steps of a builder -/

namespace Builder

/-- A builder with another innermost route. -/
def within (b : Builder) (r : Scope) : Builder := { b with innermost := r }

/-- A builder with one more open route. -/
def opened (b : Builder) (r : Scope) : Builder :=
  { b with innermost := r, around := b.innermost :: b.around }

theorem within_innermost (b : Builder) : b.within b.innermost = b := rfl

theorem scope_within {b : Builder} {r : Scope} (h : r.segment = b.innermost.segment) :
    (b.within r).scope = b.scope := by
  obtain ⟨address, innermost, around⟩ := b
  cases around with
  | nil => rfl
  | cons s rest => simp [scope, within, h]

theorem scope_opened (b : Builder) (r : Scope) : (b.opened r).scope = b.scope ++ [r.segment] := by
  simp [scope, opened]

theorem isEmpty_scope (b : Builder) : b.scope.isEmpty = b.around.isEmpty := by
  obtain ⟨address, innermost, around⟩ := b
  cases around <;> simp [scope]

theorem outcome_openRoute (segment : String) (attributes : Assoc String Value) (b : Builder) :
    outcome (openRoute segment attributes) b =
      (.ok (), b.opened ⟨segment, literals attributes, []⟩) := rfl

theorem outcome_declare (a : Attribute) (b : Builder) :
    outcome (declare a) b = (.ok (), b.within (b.innermost.declare a)) := rfl

theorem outcome_runtime (key : String) (expression : Dict → Eval Value) (bindings : Dict)
    (b : Builder) :
    outcome (runtime key expression bindings) b =
      (.ok (), b.within (b.innermost.declare (.computedAt b.scope key expression bindings))) := rfl

theorem outcome_attach (segment : String) (n : Node) (b : Builder) :
    outcome (attach segment n) b =
      if b.innermost.children.contains segment then
        (.error (.takenSegment segment b.innermost.segment), b)
      else (.ok (), b.within (b.innermost.add segment n)) := by
  have step : outcome (attach segment n) b =
      outcome (if b.innermost.children.contains segment then
        throw (.takenSegment segment b.innermost.segment)
      else set { b with innermost := { b.innermost with
        children := b.innermost.children.insert segment n } }) b := rfl
  rw [step]
  split
  · rfl
  · rename_i free
    rw [Assoc.insert_of_not_contains (eq_false_of_ne_true free)]
    rfl

/-- What attaching a node leaves behind, and when it succeeds. -/
theorem run_attach (segment : String) (n : Node) (b : Builder) :
    (Ending.of (outcome (attach segment n) b)).2 =
        (if b.innermost.children.contains segment then b
          else b.within (b.innermost.add segment n)) ∧
      ((Ending.of (outcome (attach segment n) b)).1 = .returned ↔
        b.innermost.children.contains segment = false) := by
  rw [outcome_attach]
  by_cases taken : b.innermost.children.contains segment
  · simp [taken, Ending.of]
  · simp [taken, Ending.of]

theorem outcome_endpoint (segment : String) (identifier method : Value)
    (attributes : Assoc String Value) (b : Builder) :
    outcome (endpoint segment identifier method attributes) b =
      match Node.fields identifier method with
      | .error faults => (.error (.invalidEndpoint identifier.display faults), b)
      | .ok (id, m) => outcome (attach segment ⟨literals attributes, [], id, m⟩) b := by
  rw [endpoint]
  cases Node.fields identifier method <;> rfl

theorem outcome_build (address : String) (b : Builder) :
    outcome (build address) b =
      if b.around.isEmpty then
        (.ok ⟨if address == "" then b.address else address, b.innermost.node⟩, b)
      else (.error (.openRoute b.scope), b) := by
  have step : outcome (build address) b =
      outcome (if b.around.isEmpty then
        return ⟨if address == "" then b.address else address, b.innermost.node⟩
      else throw (.openRoute b.scope)) b := rfl
  rw [step]
  split <;> rfl

/-- Leaving a block by an exception forgets the route that was opened. -/
theorem outcome_abandonRoute (b : Builder) (r s : Scope) :
    outcome abandonRoute ((b.opened r).within s) = (.ok (), b) := rfl

/-- Closing a block attaches the route to the one around it. -/
theorem outcome_closeRoute (b : Builder) (r s : Scope) :
    outcome closeRoute ((b.opened r).within s) = outcome (attach s.segment s.node) b := rfl

end Builder

/-! ## Operations on a builder -/

mutual

/-- An operation leaves the open routes alone and extends the innermost one. -/
theorem run_eq : ∀ (op : Operation) (b : Builder),
    (op.run b).2 = b.within (op.extend b.scope b.innermost) ∧
      ((op.run b).1 = .returned ↔ op.fails b.scope b.innermost = false)
  | .literal key value, b => by
    rw [Operation.run, Builder.literal, Builder.outcome_declare]
    exact ⟨rfl, iff_of_true rfl rfl⟩
  | .runtime key expression bindings, b => by
    rw [Operation.run, Builder.outcome_runtime]
    exact ⟨rfl, iff_of_true rfl rfl⟩
  | .endpoint segment identifier method attributes, b => by
    rw [Operation.run, Builder.outcome_endpoint, Operation.extend, Operation.fails]
    cases valid : Node.fields identifier method with
    | error faults => simp [Ending.of, Except.isOk, Except.toBool, Builder.within_innermost]
    | ok fields =>
      obtain ⟨left, ends⟩ :=
        b.run_attach segment ⟨Builder.literals attributes, [], fields.1, fields.2⟩
      refine ⟨left.trans ?_, ends.trans ?_⟩
      · simp only [Except.isOk, Except.toBool, Bool.not_true, Bool.false_or]
        split <;> rfl
      · simp [Except.isOk, Except.toBool]
  | .build address, b => by
    rw [Operation.run, Builder.outcome_build, Operation.extend, Operation.fails,
      Builder.isEmpty_scope]
    cases b.around.isEmpty <;> simp [Ending.of, Builder.within_innermost]
  | .block segment attributes body raised, b => by
    have inside := runAll_eq body (b.opened ⟨segment, Builder.literals attributes, []⟩)
    rw [Builder.scope_opened] at inside
    rw [Operation.run, Builder.outcome_openRoute, inside, Operation.extend, Operation.fails]
    cases raised with
    | true =>
      rw [Builder.outcome_abandonRoute]
      simp [Builder.within_innermost]
    | false =>
      obtain ⟨left, ends⟩ := b.run_attach segment
        (extendAll (b.scope ++ [segment]) ⟨segment, Builder.literals attributes, []⟩ body).node
      rw [Builder.outcome_closeRoute, segment_extendAll]
      refine ⟨left.trans ?_, ends.trans ?_⟩
      · simp only [Bool.false_or]
        split <;> rfl
      · rw [Bool.false_or]

theorem runAll_eq : ∀ (ops : List Operation) (b : Builder),
    runAll ops b = b.within (extendAll b.scope b.innermost ops)
  | [], b => by
    rw [runAll, extendAll, Builder.within_innermost]
  | op :: rest, b => by
    rw [runAll, extendAll, runAll_eq rest, (run_eq op b).1,
      Builder.scope_within (segment_extend _ _ _)]
    rfl

end

/-! ## Computed attributes -/

/-- A run declares a computed attribute while the given routes are open. -/
inductive DeclaresRuntime (key : String) (expression : Dict → Eval Value) (bindings : Dict) :
    List String → List Operation → Prop
  | here {ops : List Operation} (h : .runtime key expression bindings ∈ ops) :
      DeclaresRuntime key expression bindings [] ops
  | inside {ops body : List Operation} {segment : String} {attributes : Assoc String Value}
      {scope : List String} (h : .block segment attributes body false ∈ ops)
      (rest : DeclaresRuntime key expression bindings scope body) :
      DeclaresRuntime key expression bindings (segment :: scope) ops

theorem DeclaresRuntime.mono {key : String} {expression : Dict → Eval Value} {bindings : Dict}
    {scope : List String} {ops more : List Operation} (sub : ops ⊆ more)
    (h : DeclaresRuntime key expression bindings scope ops) :
    DeclaresRuntime key expression bindings scope more := by
  cases h with
  | here h => exact .here (sub h)
  | inside h rest => exact .inside (sub h) rest

/-- Every attribute in a tree satisfies a condition on it and the segments down to its node. -/
inductive Throughout (P : List String → Attribute → Prop) : List String → Node → Prop
  | node {scope : List String} {n : Node} (own : ∀ a ∈ n.attributes, P scope a)
      (below : ∀ c ∈ n.children, Throughout P (scope ++ [c.1]) c.2) : Throughout P scope n

namespace Throughout

variable {P : List String → Attribute → Prop} {scope : List String} {r : Scope}

theorem declare {a : Attribute} (h : Throughout P scope r.node) (ha : P scope a) :
    Throughout P scope (r.declare a).node := by
  obtain ⟨own, below⟩ := h
  refine .node ?_ below
  intro a' ha'
  rcases List.mem_append.1 ha' with ha' | ha'
  · exact own a' ha'
  · rwa [List.mem_singleton.1 ha']

theorem add {segment : String} {n : Node} (h : Throughout P scope r.node)
    (hn : Throughout P (scope ++ [segment]) n) : Throughout P scope (r.add segment n).node := by
  obtain ⟨own, below⟩ := h
  refine .node own ?_
  intro c hc
  rcases List.mem_append.1 hc with hc | hc
  · exact below c hc
  · rwa [List.mem_singleton.1 hc]

theorem literals (lit : ∀ scope key value, P scope (.literal key value))
    (attributes : Assoc String Value) (id : Option String) (m : Option Method) :
    Throughout P scope ⟨Builder.literals attributes, [], id, m⟩ := by
  refine .node ?_ (fun _ h => absurd h List.not_mem_nil)
  intro a ha
  obtain ⟨entry, -, rfl⟩ := List.mem_map.1 ha
  exact lit scope entry.1 entry.2

/-- Along a way, an attribute stands at the segments down to its node. -/
theorem declared {n : Node} {w : Way} (h : Throughout P scope n) (lead : Leads n w) :
    ∀ a ∈ w.declared, ∃ down, down <+: w.segments ∧ P (scope ++ down) a := by
  induction lead generalizing scope with
  | @endpoint n _ =>
    obtain ⟨own, -⟩ := h
    intro a ha
    refine ⟨[], List.nil_prefix, ?_⟩
    rw [List.append_nil]
    exact own a (by simpa [Way.declared, Way.nodes] using ha)
  | @child n c place segment w _ found _ ih =>
    obtain ⟨own, below⟩ := h
    intro a ha
    rcases List.mem_append.1 (show a ∈ n.attributes ++ w.declared from ha) with ha | ha
    · refine ⟨[], List.nil_prefix, ?_⟩
      rw [List.append_nil]
      exact own a ha
    · obtain ⟨down, hd, ha⟩ := ih (below _ (List.mem_of_getElem? found)) a ha
      refine ⟨segment :: down, (List.prefix_cons_inj segment).2 hd, ?_⟩
      rwa [List.append_assoc] at ha

end Throughout

mutual

/-- Operations declare literal attributes, and computed ones with the environment of the routes
open at their declaration. -/
theorem throughout_extend {P : List String → Attribute → Prop}
    (lit : ∀ scope key value, P scope (.literal key value)) :
    ∀ {scope : List String} {r : Scope} (op : Operation),
    (∀ {down key expression bindings}, DeclaresRuntime key expression bindings down [op] →
      P (scope ++ down) (.computedAt (scope ++ down) key expression bindings)) →
    Throughout P scope r.node → Throughout P scope (op.extend scope r).node
  | scope, r, op, computed, h => by
    unfold Operation.extend
    split
    · exact h
    · rename_i succeeds
      cases op with
      | literal key value => exact h.declare (lit scope key value)
      | runtime key expression bindings =>
        have own := computed (.here List.mem_cons_self)
        rw [List.append_nil] at own
        exact h.declare own
      | endpoint segment identifier method attributes =>
        dsimp only
        split
        · exact h.add (.literals lit attributes _ _)
        · exact h
      | build address => exact h
      | block segment attributes body raised =>
        have normally : raised = false := by
          cases raised with
          | false => rfl
          | true => exact absurd rfl succeeds
        subst normally
        refine h.add (throughout_extendAll lit body ?_ (.literals lit attributes none none))
        intro down key expression bindings declares
        have below := computed (.inside List.mem_cons_self declares)
        rwa [List.append_cons] at below

theorem throughout_extendAll {P : List String → Attribute → Prop}
    (lit : ∀ scope key value, P scope (.literal key value)) :
    ∀ {scope : List String} {r : Scope} (ops : List Operation),
    (∀ {down key expression bindings}, DeclaresRuntime key expression bindings down ops →
      P (scope ++ down) (.computedAt (scope ++ down) key expression bindings)) →
    Throughout P scope r.node → Throughout P scope (extendAll scope r ops).node
  | scope, r, [], computed, h => by
    rwa [extendAll]
  | scope, r, op :: rest, computed, h => by
    rw [extendAll]
    refine throughout_extendAll lit rest ?_ (throughout_extend lit op ?_ h)
    · exact fun declares => computed (declares.mono (List.subset_cons_self op rest))
    · refine fun declares => computed (declares.mono ?_)
      exact List.cons_subset_cons op (List.nil_subset rest)

end

/-- The tree that operations build on the attributes of the root. -/
def built (address : String) (attributes : Assoc String Value) (ops : List Operation) :
    SchemaTree :=
  ⟨address, blockNode [] attributes ops⟩

/-- An attribute of a tree that operations built, at the segments down to its node: it is literal,
or the operations declare it in a block there and it is computed in the environment of that
place. -/
def DeclaredBy (ops : List Operation) (scope : List String) (a : Attribute) : Prop :=
  (∃ value, a = .literal a.key value) ∨ ∃ expression bindings,
    DeclaresRuntime a.key expression bindings scope ops ∧
      a = .computedAt scope a.key expression bindings

theorem throughout_built (address : String) (attributes : Assoc String Value)
    (ops : List Operation) :
    Throughout (DeclaredBy ops) [] (built address attributes ops).root := by
  have lit : ∀ scope key value, DeclaredBy ops scope (.literal key value) :=
    fun _ _ value => .inl ⟨value, rfl⟩
  rw [built, ← node_after [] "" attributes ops, ← extendAll_eq_after]
  refine throughout_extendAll lit ops ?_ (.literals lit attributes none none)
  intro down key expression bindings declares
  exact .inr ⟨expression, bindings, declares, rfl⟩

/-- **A run of operations builds exactly what succeeds in it.** An operation leaves the open routes
as they were, and one that does not return leaves the whole builder as it was. The tree built in the
end is told by the operations alone, and every attribute computed for an endpoint is evaluated in
the environment of the routes open at its declaration. -/
theorem run_builds (address : String) (attributes : Assoc String Value) (ops : List Operation) :
    (∀ (op : Operation) (b : Builder),
      (op.run b).2.scope = b.scope ∧ (op.run b).2.around = b.around ∧
      (op.run b).2.address = b.address ∧
      (op.run b).2.innermost = op.extend b.scope b.innermost ∧
      ((op.run b).1 = .returned ↔ op.fails b.scope b.innermost = false) ∧
      ((op.run b).1 = .returned ∨ (op.run b).2 = b)) ∧
    (∀ other, outcome (Builder.build other) (runAll ops (.start address attributes)) =
      (.ok (built (if other == "" then address else other) attributes ops),
        runAll ops (.start address attributes))) ∧
    ∀ other table, (built other attributes ops).flatten = .ok table → ∀ d ∈ table, ∃ way,
      Leads (built other attributes ops).root way ∧ Describes other way d ∧
      ∀ entry ∈ d.attributes, (∃ value, entry.2 = .literal entry.1 value) ∨
        ∃ scope expression bindings, scope <+: way.segments ∧
          DeclaresRuntime entry.1 expression bindings scope ops ∧
          entry.2.evaluate = expression (environmentAt scope bindings) := by
  refine ⟨fun op b => ?_, fun other => ?_, fun other table flat d hd => ?_⟩
  · obtain ⟨left, ends⟩ := run_eq op b
    refine ⟨?_, ?_, ?_, ?_, ends, ?_⟩
    · rw [left, Builder.scope_within (segment_extend _ _ _)]
    · rw [left, Builder.within]
    · rw [left, Builder.within]
    · rw [left, Builder.within]
    · cases fails : op.fails b.scope b.innermost with
      | false => exact .inl (ends.2 fails)
      | true =>
        right
        rw [left, Operation.extend.eq_def, if_pos fails, Builder.within_innermost]
  · rw [runAll_eq, Builder.outcome_build, built, ← node_after [] "" attributes ops,
      ← extendAll_eq_after]
    rfl
  · obtain ⟨way, hw, hid, hdef⟩ := (walked_flatten flat).exists_way hd
    have lead := mem_ways.1 hw
    have describes : Describes other way d := by
      rw [hdef]
      exact way.describes hid
    refine ⟨way, lead, describes, fun entry he => ?_⟩
    obtain ⟨declared, key⟩ := describes.declared entry he
    obtain ⟨scope, down, origin⟩ := (throughout_built other attributes ops).declared lead _ declared
    rw [List.nil_append] at origin
    rw [key]
    rcases origin with ⟨value, literal⟩ | ⟨expression, bindings, declares, computed⟩
    · exact .inl ⟨value, literal⟩
    · refine .inr ⟨scope, expression, bindings, down, declares, ?_⟩
      rw [computed]
      rfl

/-- A run with a computed attribute on a route, and with every kind of failure: a taken segment, a
tree asked for inside a route, a block left by an exception, a method there is none of, and a block
closed on a taken segment. -/
def session : List Operation :=
  [.block "forum" [("lang", .text "en")]
    [.runtime "place" (fun env => pure (.dict env)) [(.text "by", .int 7)],
      .endpoint "{id}" (.text "view") .null [],
      .endpoint "{id}" (.text "again") .null [],
      .build "",
      .block "old" [] [.literal "lang" .null, .endpoint "" (.text "old") .null []] true,
      .block "posts" [] [.endpoint "" (.text "post") (.text "post") []] false] false,
    .endpoint "" (.text "home") (.text "brew") [],
    .block "forum" [] [.endpoint "" (.text "other") .null []] false]

theorem run_builds_session : ∃ table, (built "https://svc.com" [] session).flatten = .ok table ∧
    table.map (fun d => (d.path, Assoc.keys d.attributes)) =
      [("https://svc.com/forum/{id}", ["lang", "place"]),
        ("https://svc.com/forum/posts", ["lang", "place"])] ∧
    ∀ d ∈ table, ∃ way, Leads (built "https://svc.com" [] session).root way ∧
      Describes "https://svc.com" way d ∧
      ∀ entry ∈ d.attributes, (∃ value, entry.2 = .literal entry.1 value) ∨
        ∃ scope expression bindings, scope <+: way.segments ∧
          DeclaresRuntime entry.1 expression bindings scope session ∧
          entry.2.evaluate = expression (environmentAt scope bindings) := by
  have rows : (built "https://svc.com" [] session).flatten.map
      (·.map fun d => (d.path, Assoc.keys d.attributes)) =
      .ok [("https://svc.com/forum/{id}", ["lang", "place"]),
        ("https://svc.com/forum/posts", ["lang", "place"])] := by
    decide +kernel
  obtain ⟨table, h, rows⟩ := Outcome.map_eq_ok.1 rows
  exact ⟨table, h, rows, (run_builds "" [] session).2.2 _ table h⟩

end RouteSchema
