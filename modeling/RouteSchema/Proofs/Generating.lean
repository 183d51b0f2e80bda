import RouteSchema.Compiled
import RouteSchema.Proofs.Calling
import RouteSchema.Proofs.Flattening
import RouteSchema.Proofs.Resolving

/-!
# Generating clients

Flattening checks the identifiers and keys of a tree, and generating a client checks the identifiers
of a resolved table again. Nothing between the two changes them, so the second check always passes.

* `Proper` says what the first check leaves: `flatten_proper`.
* `addAll_of_proper`: what passes the second check.
* `Served` is what a client has for an endpoint, and `client_mirrors` says that a client has it for
  every endpoint of its schema and for nothing else.
-/

namespace RouteSchema

open Stateful

/-- The identifier of a definition passes the check, and none of its keys is reserved. -/
structure Proper (d : Definition) : Prop where
  id : checkId d.path (some d.id) = .ok d.id
  keys : ∀ key ∈ Assoc.keys d.attributes, key ∉ reservedKeys

/-! ## What flattening checks -/

theorem mergeAttributes_unreserved {inherited merged : Assoc String Attribute}
    {own : List Attribute} (h : mergeAttributes inherited own = .ok merged)
    (free : ∀ key ∈ Assoc.keys inherited, key ∉ reservedKeys) :
    ∀ key ∈ Assoc.keys merged, key ∉ reservedKeys := by
  induction own generalizing inherited with
  | nil =>
    cases h
    exact free
  | cons a own ih =>
    rw [mergeAttributes] at h
    split at h
    · cases h
    · rename_i unreserved
      refine ih h fun key hkey => ?_
      rw [Assoc.keys_insert] at hkey
      split at hkey
      · exact free key hkey
      · rcases List.mem_append.1 hkey with hkey | hkey
        · exact free key hkey
        · rw [List.mem_singleton.1 hkey]
          simpa using unreserved

mutual

theorem proper_definitions : ∀ {n : Node} {path : String} {inherited : Assoc String Attribute}
    {table : List Definition}, n.definitions path inherited = .ok table →
    (∀ key ∈ Assoc.keys inherited, key ∉ reservedKeys) → ∀ d ∈ table, Proper d
  | ⟨own, children, some id, method⟩, path, inherited, table, h, free => by
    rw [Node.definitions] at h
    obtain ⟨merged, hm, h⟩ := Outcome.bind_eq_ok.1 h
    obtain ⟨found, hid, h⟩ := Outcome.bind_eq_ok.1 h
    cases h
    obtain rfl := checkId_eq hid
    intro d hd
    obtain rfl := List.mem_singleton.1 hd
    exact ⟨hid, mergeAttributes_unreserved hm free⟩
  | ⟨own, children, none, method⟩, path, inherited, table, h, free => by
    rw [Node.definitions] at h
    obtain ⟨merged, hm, h⟩ := Outcome.bind_eq_ok.1 h
    exact proper_definitionsBelow h (mergeAttributes_unreserved hm free)

theorem proper_definitionsBelow : ∀ {children : List (String × Node)} {path : String}
    {inherited : Assoc String Attribute} {table : List Definition},
    definitionsBelow path inherited children = .ok table →
    (∀ key ∈ Assoc.keys inherited, key ∉ reservedKeys) → ∀ d ∈ table, Proper d
  | [], path, inherited, table, h, free => by
    rw [definitionsBelow] at h
    cases h
    exact fun d hd => absurd hd List.not_mem_nil
  | (segment, child) :: rest, path, inherited, table, h, free => by
    rw [definitionsBelow] at h
    obtain ⟨first, hf, h⟩ := Outcome.bind_eq_ok.1 h
    obtain ⟨others, ho, h⟩ := Outcome.bind_eq_ok.1 h
    cases h
    intro d hd
    rcases List.mem_append.1 hd with hd | hd
    · exact proper_definitions hf free d hd
    · exact proper_definitionsBelow ho free d hd

end

theorem flatten_proper {t : SchemaTree} {table : List Definition} (h : t.flatten = .ok table) :
    (∀ d ∈ table, Proper d) ∧ (table.map Definition.id).Nodup := by
  obtain ⟨walk, hw, h⟩ := Outcome.bind_eq_ok.1 h
  split at h
  · cases h
  · rename_i distinct
    cases h
    exact ⟨proper_definitions hw fun _ hkey => absurd hkey List.not_mem_nil,
      (nodup_of_firstRepeated? distinct).1⟩

/-! ## Definitions by identifier -/

namespace Compiled

theorem ofTree_of_flatten {t : SchemaTree} {table : List Definition} (h : t.flatten = .ok table) :
    ofTree t = .ok ⟨t, table, h⟩ := by
  rw [ofTree]
  split
  · rename_i found
    cases h.symm.trans found
    rfl
  · rename_i fails
    cases h.symm.trans fails

theorem byId_eq (c : Compiled) : c.byId = c.table.map fun d => (d.id, d) := by
  refine Assoc.overlay_of_nodup (m := []) ?_
  rw [List.nil_append, Assoc.keys, List.map_map]
  exact (flatten_proper c.flattened).2

theorem ids_eq (c : Compiled) : c.ids = c.table.map Definition.id := by
  rw [ids, byId_eq, Assoc.keys, List.map_map]
  rfl

theorem nodup_ids (c : Compiled) : c.ids.Nodup := by
  rw [ids_eq]
  exact (flatten_proper c.flattened).2

theorem definition_of_mem {c : Compiled} {d : Definition} (h : d ∈ c.table) :
    c.definition d.id = .ok d := by
  have distinct : (Assoc.keys c.byId).Nodup := c.nodup_ids
  have found : (d.id, d) ∈ c.byId := byId_eq c ▸ List.mem_map.2 ⟨d, h, rfl⟩
  rw [definition, Assoc.get?_of_mem distinct found]

theorem mem_of_definition {c : Compiled} {id : String} {d : Definition}
    (h : c.definition id = .ok d) : d ∈ c.table := by
  rw [definition, byId_eq] at h
  split at h
  · rename_i found
    cases h
    obtain ⟨d', member, same⟩ := List.mem_map.1 (Assoc.mem_of_get? found)
    cases same
    exact member
  · cases h

end Compiled

/-! ## Generation -/

section

variable {m : Type → Type} {ρ : Type}

/-- The entry of a client for an endpoint. -/
def EndpointFunction.entry (capability : Capability m ρ) (pattern : Pattern) (r : Resolved) :
    String × EndpointFunction m ρ :=
  (r.id, ⟨r, capability, pattern⟩)

/-- Endpoints with proper and distinct identifiers are all added. -/
theorem addAll_of_proper (capability : Capability m ρ) (pattern : Pattern)
    {functions : Assoc String (EndpointFunction m ρ)} {table : List Resolved}
    (proper : ∀ r ∈ table, checkId r.path (some r.id) = .ok r.id)
    (distinct : (Assoc.keys functions ++ table.map Resolved.id).Nodup) :
    Client.addAll capability pattern functions table =
      .ok (functions ++ table.map (EndpointFunction.entry capability pattern)) := by
  induction table generalizing functions with
  | nil => rw [Client.addAll, List.map_nil, List.append_nil]
  | cons r table ih =>
    have fresh : Assoc.contains functions r.id = false := by
      rw [Bool.eq_false_iff, Ne, Assoc.contains_iff_mem_keys]
      intro known
      exact (List.nodup_append.1 distinct).2.2 _ known _ List.mem_cons_self rfl
    have keys : Assoc.keys (functions ++ [EndpointFunction.entry capability pattern r]) ++
        table.map Resolved.id = Assoc.keys functions ++ (r :: table).map Resolved.id := by
      simp [Assoc.keys, EndpointFunction.entry]
    rw [Client.addAll, proper r List.mem_cons_self]
    show (if Assoc.contains functions r.id then _ else _) = _
    rw [if_neg (Bool.eq_false_iff.1 fresh), Assoc.insert_of_not_contains fresh]
    rw [← keys] at distinct
    refine (ih (fun r' hr' => proper r' (List.mem_cons_of_mem r hr')) distinct).trans ?_
    rw [List.append_assoc, List.map_cons, List.singleton_append]

theorem exists_dispatch {capability : Option (Capability m ρ)} {dispatch : Option (Call → m ρ)}
    (able : capability.isSome ∨ dispatch.isSome) :
    ∃ perform, (dispatch <|> capability.map (·.dispatch)) = some perform := by
  cases dispatch with
  | some perform => exact ⟨perform, rfl⟩
  | none =>
    obtain ⟨own, rfl⟩ := Option.isSome_iff_exists.1 (able.resolve_right Bool.false_ne_true)
    exact ⟨own.dispatch, rfl⟩

/-- With a way to dispatch and a readable pattern, endpoints with proper and distinct identifiers
have a client. -/
theorem generate_of_proper [Platform] [Monad m] {capability : Option (Capability m ρ)}
    {dispatch : Option (Call → m ρ)} {perform : Call → m ρ}
    (validator : Option (Value → Value → m Bool)) {choice : PatternChoice} {pattern : Pattern}
    {table : List Resolved} (chosen : (dispatch <|> capability.map (·.dispatch)) = some perform)
    (readable : Pattern.of choice = .ok pattern)
    (proper : ∀ r ∈ table, checkId r.path (some r.id) = .ok r.id)
    (distinct : (table.map Resolved.id).Nodup) :
    Client.generate table capability dispatch validator choice =
      .ok ⟨table.map (EndpointFunction.entry
        ⟨perform, (validator <|> capability.map (·.accepts)).getD fun _ _ => pure true⟩
        pattern)⟩ := by
  have added (own : Capability m ρ) : Client.addAll own pattern [] table =
      .ok (table.map (EndpointFunction.entry own pattern)) :=
    addAll_of_proper own pattern proper distinct
  simp only [Client.generate, chosen, readable]
  exact Outcome.bind_eq_ok.2 ⟨pattern, rfl, Outcome.bind_eq_ok.2 ⟨_, by rw [added]; rfl, rfl⟩⟩

theorem startsWith_of_checkId {place id found : String} (h : checkId place (some id) = .ok found) :
    id.startsWith "_" = false := by
  rw [checkId] at h
  split_ifs at h with _ _ underscored
  exact Bool.eq_false_iff.2 underscored

/-- The functions of a client that was made of endpoints are found under their identifiers. -/
theorem item_of_mem {own : Capability m ρ} {pattern : Pattern} {table : List Resolved}
    (distinct : (table.map Resolved.id).Nodup) {r : Resolved} (h : r ∈ table) :
    Client.item ⟨table.map (EndpointFunction.entry own pattern)⟩ r.id =
      .ok ⟨r, own, pattern⟩ := by
  have keys : Assoc.keys (table.map (EndpointFunction.entry own pattern)) =
      table.map Resolved.id := by
    rw [Assoc.keys, List.map_map]
    rfl
  have found := Assoc.get?_of_mem (keys ▸ distinct)
    (List.mem_map_of_mem (f := EndpointFunction.entry own pattern) h)
  rw [Client.item, found]

/-- A name without an underscore in front is a member if it is an item. -/
theorem member_of_item {client : Client m ρ} {name : String} {f : EndpointFunction m ρ}
    (plain : name.startsWith "_" = false) (h : client.item name = .ok f) :
    client.member name = .ok f := by
  rw [Client.item] at h
  rw [Client.member, if_neg (Bool.eq_false_iff.1 plain)]
  cases found : Assoc.get? client.functions name with
  | none =>
    rw [found] at h
    cases h
  | some g =>
    rw [found] at h
    exact h

theorem member_of_not_mem {client : Client m ρ} {name : String}
    (plain : name.startsWith "_" = false) (h : name ∉ client.ids) :
    ∃ detail, client.member name = .error (.missingMember detail) := by
  rw [Client.member, if_neg (Bool.eq_false_iff.1 plain), Assoc.get?_eq_none_iff.2 h]
  exact ⟨_, rfl⟩

end

/-! ## What a function dispatches -/

theorem contains_text (es : Assoc String Value) (key : String) :
    Assoc.contains (es.map fun (k, v) => (Value.text k, v)) (.text key) =
      Assoc.contains es key := by
  simp [Assoc.contains, List.any_map, Function.comp_def]

/-- Where no key is reserved, the verb and the path template stand behind the attributes. -/
theorem dispatchAttributes_eq {r : Resolved}
    (free : ∀ key ∈ Assoc.keys r.attributes, key ∉ reservedKeys) :
    r.dispatchAttributes = (r.attributes.map fun (k, v) => (.text k, v)) ++
      [(.text "method", .text r.method.verb), (.text "path_template", .text r.path)] := by
  have absent : ∀ key ∈ reservedKeys, Assoc.contains r.attributes key = false := by
    intro key reserved
    rw [Bool.eq_false_iff, Ne, Assoc.contains_iff_mem_keys]
    exact fun known => free key known reserved
  have first : Assoc.contains (r.attributes.map fun (k, v) => (Value.text k, v))
      (.text "method") = false := by
    rw [contains_text]
    exact absent _ List.mem_cons_self
  have second : Assoc.contains ((r.attributes.map fun (k, v) => (Value.text k, v)) ++
      [(.text "method", .text r.method.verb)]) (.text "path_template") = false := by
    rw [Assoc.contains, List.any_append, ← Assoc.contains, contains_text,
      absent _ (by simp [reservedKeys])]
    simp
  rw [Resolved.dispatchAttributes, Assoc.overlay_cons, Assoc.insert_of_not_contains first,
    Assoc.overlay_cons, Assoc.insert_of_not_contains second, Assoc.overlay_nil, List.append_assoc,
    List.singleton_append]

theorem upper_verb (method : Method) : Text.upper method.verb = method.verb := by
  have capital : method.verb.toList.all (·.toNat < 0x61) = true := by
    cases method <;> rfl
  exact Text.upper_of_lt fun c hc => of_decide_eq_true (List.all_eq_true.1 capital c hc)

/-- A function that dispatches hands over the attributes of its endpoint. -/
theorem attributes_of_dispatch [Platform] {σ ρ : Type} {f : EndpointFunction (StateM σ) ρ}
    {params options : Dict} {s : σ} {call : Call}
    (h : .dispatch call ∈ (f.watch params options s).2.2) :
    call.attributes = f.endpoint.dispatchAttributes := by
  obtain ⟨answer, s', asked, run, answers | ⟨failure, -, off⟩⟩ := watch_answers f params options s
  · rw [run] at h
    cases answers with
    | missing => cases h
    | refused =>
      obtain ⟨e, -, other⟩ := List.mem_map.1 h
      cases other
    | dispatched =>
      rcases List.mem_append.1 h with h | h
      · obtain ⟨e, -, other⟩ := List.mem_map.1 h
        cases other
      · cases List.mem_singleton.1 h
        rfl
  · rw [run] at h
    exact absurd off.not_worded.1 (List.countP_pos_iff.2 ⟨_, h, rfl⟩).ne'

/-- Whenever a function dispatches, it passes the attributes of its endpoint in their order, none of
them under a reserved key, and behind them the verb in capitals and the path template. -/
structure EndpointFunction.Passes [Platform] {σ ρ : Type} (f : EndpointFunction (StateM σ) ρ) :
    Prop where
  unreserved : ∀ key ∈ Assoc.keys f.endpoint.attributes, key ∉ reservedKeys
  capitals : Text.upper f.endpoint.method.verb = f.endpoint.method.verb
  attributes : ∀ params options s call, .dispatch call ∈ (f.watch params options s).2.2 →
    call.attributes = (f.endpoint.attributes.map fun (k, v) => (.text k, v)) ++
      [(.text "method", .text f.endpoint.method.verb),
        (.text "path_template", .text f.endpoint.path)]

theorem EndpointFunction.passes [Platform] {σ ρ : Type} {f : EndpointFunction (StateM σ) ρ}
    (free : ∀ key ∈ Assoc.keys f.endpoint.attributes, key ∉ reservedKeys) : f.Passes where
  unreserved := free
  capitals := upper_verb f.endpoint.method
  attributes _ _ _ _ h := by rw [attributes_of_dispatch h, dispatchAttributes_eq free]

/-! ## Clients of compiled schemas -/

section

variable {σ ρ : Type}

/-- What there is for an endpoint of a materialization: its definition under its identifier, and
one function however it is accessed, which carries the endpoint. -/
structure Served [Platform] (c : Compiled) (client : Client (StateM σ) ρ) (d : Definition)
    (r : Resolved) : Prop where
  definition : c.definition d.id = .ok d
  keeps : Keeps d r
  function : ∃ f, client.item d.id = .ok f ∧ client.member d.id = .ok f ∧ f.endpoint = r ∧ f.Passes

theorem ids_of_keeps {table : List Definition} {rs : List Resolved}
    (h : List.Forall₂ Keeps table rs) : rs.map Resolved.id = table.map Definition.id := by
  induction h with
  | nil => rfl
  | cons keeps _ ih => rw [List.map_cons, List.map_cons, keeps.id, ih]

/-- Endpoints that keep proper definitions pass the check of their identifiers once more. -/
theorem checkId_of_keeps {table : List Definition} {rs : List Resolved}
    (h : List.Forall₂ Keeps table rs) (proper : ∀ d ∈ table, Proper d) :
    ∀ r ∈ rs, checkId r.path (some r.id) = .ok r.id := by
  induction h with
  | nil => exact fun r hr => absurd hr List.not_mem_nil
  | cons keeps _ ih =>
    intro r hr
    rcases List.mem_cons.1 hr with rfl | hr
    · rw [keeps.id, keeps.path]
      exact (proper _ List.mem_cons_self).id
    · exact ih (fun d hd => proper d (List.mem_cons_of_mem _ hd)) r hr

theorem keeps_of_materialize {c : Compiled} {w w' : World} {rs : List Resolved}
    (h : outcome c.materialize w = (.ok rs, w')) : List.Forall₂ Keeps c.table rs := by
  rcases yields_or_fails (turns c.table) w with
    ⟨values, after, yields⟩ | ⟨_, _, _, _, _, _, _, split, yields, fails⟩
  · obtain ⟨rs', resolved, kept, -⟩ := resolveAll_of_yields yields
    cases h.symm.trans resolved
    exact kept
  · cases h.symm.trans (resolveAll_of_fails split yields fails)

theorem served_of_keeps [Platform] {c : Compiled} {rs : List Resolved}
    (kept : List.Forall₂ Keeps c.table rs) (own : Capability (StateM σ) ρ) (pattern : Pattern) :
    List.Forall₂ (Served c ⟨rs.map (EndpointFunction.entry own pattern)⟩) c.table rs := by
  obtain ⟨proper, distinct⟩ := flatten_proper c.flattened
  obtain ⟨length, keeps⟩ := List.forall₂_iff_zip.1 kept
  refine List.forall₂_iff_zip.2 ⟨length, fun {d r} pair => ?_⟩
  obtain ⟨hd, hr⟩ := List.of_mem_zip pair
  have same := keeps pair
  have item : Client.item ⟨rs.map (EndpointFunction.entry own pattern)⟩ d.id =
      .ok ⟨r, own, pattern⟩ := same.id ▸ item_of_mem (ids_of_keeps kept ▸ distinct) hr
  have plain := startsWith_of_checkId (proper d hd).id
  exact
    { definition := Compiled.definition_of_mem hd
      keeps := same
      function := ⟨⟨r, own, pattern⟩, item, member_of_item plain item, rfl,
        EndpointFunction.passes (same.keys ▸ (proper d hd).keys)⟩ }

/-- **A client has one function for every endpoint of its schema, and no other member.** If a schema
can be materialized, then its client can be generated. -/
theorem client_mirrors [Platform] (c : Compiled) {w w' : World} {rs : List Resolved}
    (capability : Option (Capability (StateM σ) ρ)) (dispatch : Option (Call → StateM σ ρ))
    (validator : Option (Value → Value → StateM σ Bool)) {choice : PatternChoice}
    {pattern : Pattern} (able : capability.isSome ∨ dispatch.isSome)
    (readable : Pattern.of choice = .ok pattern)
    (materialized : outcome c.materialize w = (.ok rs, w')) :
    ∃ client, outcome (c.client capability dispatch validator choice) w = (.ok client, w') ∧
      c.ids.Nodup ∧ c.ids = c.table.map Definition.id ∧ client.ids = c.ids ∧
      List.Forall₂ (Served c client) c.table rs ∧
      ∀ name, name ∉ c.ids → name.startsWith "_" = false →
        ∃ detail, client.member name = .error (.missingMember detail) := by
  have kept := keeps_of_materialize materialized
  obtain ⟨proper, distinct⟩ := flatten_proper c.flattened
  obtain ⟨perform, chosen⟩ := exists_dispatch able
  obtain ⟨own, generated⟩ : ∃ own, Client.generate rs capability dispatch validator choice =
      .ok ⟨rs.map (EndpointFunction.entry own pattern)⟩ :=
    ⟨_, generate_of_proper validator chosen readable (checkId_of_keeps kept proper)
      (ids_of_keeps kept ▸ distinct)⟩
  have ids : Client.ids ⟨rs.map (EndpointFunction.entry own pattern)⟩ = c.ids := by
    rw [Client.ids, Assoc.keys, List.map_map, c.ids_eq, ← ids_of_keeps kept]
    rfl
  refine ⟨_, ?_, c.nodup_ids, c.ids_eq, ids, served_of_keeps kept own pattern, ?_⟩
  · rw [Compiled.client, outcome_bind_ok materialized, generated]
    rfl
  · exact fun name other plain => member_of_not_mem plain (ids ▸ other)

end

/-- A board with an attribute inherited by its endpoints, and one that is looked up for one of
them. -/
def board : SchemaTree where
  address := "https://svc.com"
  root :=
    { attributes := [.literal "lang" (.text "en")]
      children :=
        [("threads", ⟨[], [], some "view", none⟩),
          ("posts", ⟨[.ofSource "token" (.setting "TOKEN" none)], [], some "post", some .post⟩)]
      endpoint := none
      method := none }

/-- The table of the board. -/
def boardTable : List Definition :=
  [⟨"view", Path.join "https://svc.com" ["threads"], .get,
      [("lang", .literal "lang" (.text "en"))]⟩,
    ⟨"post", Path.join "https://svc.com" ["posts"], .post,
      [("lang", .literal "lang" (.text "en")),
        ("token", .ofSource "token" (.setting "TOKEN" none))]⟩]

theorem board_flatten : board.flatten = .ok boardTable := by
  have view (place : String) : checkId place (some "view") = .ok "view" :=
    checkId_of_identifier (by decide) (by decide +kernel) (by decide +kernel) (by decide +kernel) _
  have post (place : String) : checkId place (some "post") = .ok "post" :=
    checkId_of_identifier (by decide) (by decide +kernel) (by decide +kernel) (by decide +kernel) _
  simp [SchemaTree.flatten, board, boardTable, Node.definitions, definitionsBelow, mergeAttributes,
    view, post, Attribute.literal, Attribute.ofSource, Attribute.deferred, reservedKeys,
    Assoc.insert, firstRepeated?, Assoc.get?, bind, Except.bind, pure, Except.pure]

theorem client_mirrors_board :
    let _ : Platform := .usual
    let c : Compiled := ⟨board, boardTable, board_flatten⟩
    let w : World := ⟨⟨"/", []⟩, [("TOKEN", "abc")], [], fun _ => 0, fun _ => none⟩
    let echo (call : Call) : StateM Nat Dict := do
      modify (· + 1)
      return call.attributes
    ∃ rs client, outcome c.materialize w = (.ok rs, w) ∧
      rs.map (Assoc.values ·.attributes) = [[.text "en"], [.text "en", .text "abc"]] ∧
      outcome (c.client none (some echo) none .usual) w = (.ok client, w) ∧
      client.ids = ["view", "post"] ∧ List.Forall₂ (Served c client) boardTable rs ∧
      ∃ detail, client.member "old" = .error (.missingMember detail) := by
  intro _ c w echo
  obtain ⟨rs, materialized, values⟩ : ∃ rs, outcome c.materialize w = (.ok rs, w) ∧
      rs.map (Assoc.values ·.attributes) = [[.text "en"], [.text "en", .text "abc"]] :=
    ⟨_, rfl, rfl⟩
  have readable : Pattern.of .usual = .ok .usual := rfl
  obtain ⟨client, generated, -, same, ids, served, others⟩ :=
    client_mirrors c none (some echo) none (.inr rfl) readable materialized
  have known : c.ids = ["view", "post"] := same
  exact ⟨rs, client, materialized, values, generated, ids.trans known, served,
    others "old" (known ▸ by decide) (by decide +kernel)⟩

end RouteSchema
