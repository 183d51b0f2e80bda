import RouteSchema.Proofs.Performing

/-!
# Where the parameters of a call go

A client fills the parameters of a call into the path template and hands both on. The dispatcher
then reads the template once more, to tell which parameters the path has used; the others go into
the query. With one pattern for both, every parameter that is not null is used in exactly one place.

* `Stands` says which entries the `query` attribute of an endpoint stands for, and `Places` what a
  request makes of these entries, of the parameters and of the options.
* `Dispatcher.places_of_request`: the request of a call.
* `call_places`: every request that a call through a client sends.
-/

namespace RouteSchema

open Stateful Http RunM

/-- Whether a template has a placeholder with a name. -/
def Template.uses (t : Template) (key : Value) : Bool :=
  t.holes.any fun hole => nameValue hole.2 == key

/-- The parameters that a template leaves over: those without a placeholder that are not null. -/
def Template.leaves (t : Template) (params : Dict) : Dict :=
  params.filter fun e => !t.uses e.1 && !(e.2 == .null)

/-- The entries that a `query` attribute stands for: those of a mapping, and none if it is not there
or counts as empty. -/
inductive Stands : Option Value → Dict → Prop
  | absent : Stands none []
  | falsy {v : Value} (empty : v.truthy = false) : Stands (some v) []
  | mapping (es : Dict) : Stands (some (.dict es)) es

/-- What a request makes of the parameters and options of a call, under a template and with the
entries of the `query` attribute. -/
structure Places (t : Template) (own params options : Dict) (r : Request) : Prop where
  /-- The text of a parameter stands in the place of each of its placeholders. -/
  address : ∃ value : Option String → String, r.address = t.substitute value ∧
    ∀ name v, (nameValue name, v) ∈ params → v ≠ .null → value name = v.display
  /-- No placeholder is without a parameter. -/
  filled : ∀ hole ∈ t.holes, ∃ v, (nameValue hole.2, v) ∈ params ∧ v ≠ .null
  /-- The other parameters are written over the attribute, in order and as they are. -/
  query : r.params = Assoc.overlay own (t.leaves params)
  /-- What the path uses is not written into the query. -/
  path : ∀ hole ∈ t.holes, r.params.under (nameValue hole.2) = own.under (nameValue hole.2)
  /-- What the path does not use is one entry of the query. -/
  rest : ∀ name v, (nameValue name, v) ∈ params → v ≠ .null → name ∉ t.holes.map Prod.snd →
    r.params.under (nameValue name) = [(nameValue name, v)]
  body : ∀ name v, (name, v) ∈ r.body ↔
    name ∈ ["json", "content", "data"] ∧ options.getText? name = some v ∧ v ≠ .null
  order : (r.body.map Prod.fst).Sublist ["json", "content", "data"]
  timeout : ∀ v, r.timeout = some v ↔ options.getText? "timeout" = some v ∧ v ≠ .null

/-! ## Placeholders -/

theorem mem_firsts {names : List (Option String)} {name : Option String} :
    name ∈ Template.firsts names ↔ name ∈ names := by
  induction names with
  | nil => rfl
  | cons first names ih =>
    rw [Template.firsts, List.mem_cons, List.mem_cons, List.mem_filter, ih]
    by_cases same : name = first <;> simp [same]

theorem Template.any_names (t : Template) (key : Value) :
    (t.names.any fun name => nameValue name == key) = t.uses key := by
  rw [Bool.eq_iff_iff, List.any_eq_true, Template.uses, List.any_eq_true]
  constructor
  · rintro ⟨name, named, same⟩
    obtain ⟨hole, mem, rfl⟩ := List.mem_map.1 (mem_firsts.1 named)
    exact ⟨hole, mem, same⟩
  · rintro ⟨hole, mem, same⟩
    exact ⟨hole.2, mem_firsts.2 (List.mem_map_of_mem mem), same⟩

theorem Template.uses_nameValue {t : Template} {name : Option String} :
    t.uses (nameValue name) = true ↔ name ∈ t.holes.map Prod.snd := by
  rw [Template.uses, List.any_eq_true, List.mem_map]
  refine exists_congr fun hole => and_congr_right fun _ => ?_
  rw [(exact_nameValue name).left]
  exact nameValue_injective.eq_iff

theorem queryParams_names (t : Template) (params : Dict) :
    Dispatcher.queryParams t.names params = t.leaves params := by
  unfold Dispatcher.queryParams Template.leaves
  simp only [Template.any_names]

/-- Under the name of a placeholder, nothing is written over the attribute. -/
theorem under_overlay_of_used {t : Template} {hole : List Char × Option String}
    (mem : hole ∈ t.holes) (own params : Dict) :
    (Assoc.overlay own (t.leaves params)).under (nameValue hole.2) =
      own.under (nameValue hole.2) := by
  have used : t.uses (nameValue hole.2) = true :=
    Template.uses_nameValue.2 (List.mem_map_of_mem mem)
  have free : ∀ e ∈ t.leaves params, e.1 ≠ nameValue hole.2 := by
    intro e he same
    have unused := (List.mem_filter.1 he).2
    rw [same, used] at unused
    cases unused
  exact (exact_nameValue hole.2).under_overlay_of_free free own

/-- A parameter without a placeholder is the only entry under its name. -/
theorem under_overlay_of_unused {t : Template} {own params : Dict} (distinct : params.Distinct)
    (distinct' : own.Distinct) {name : Option String} {v : Value}
    (mem : (nameValue name, v) ∈ params) (other : v ≠ .null)
    (unused : name ∉ t.holes.map Prod.snd) :
    (Assoc.overlay own (t.leaves params)).under (nameValue name) = [(nameValue name, v)] := by
  have kept : (nameValue name, v) ∈ t.leaves params := by
    refine List.mem_filter.2 ⟨mem, ?_⟩
    simp [mt Template.uses_nameValue.1 unused, mt beq_null_iff.1 other]
  have key := exact_nameValue name
  exact key.under_overlay_of_mem (distinct.filter _) kept (key.length_under_le distinct')

/-- The value that a name is given is that of the parameter, and not null. -/
theorem given?_eq_some_iff (params : Dict) (name : Option String) {v : Value} :
    Template.given? params name = some v ↔
      Assoc.get? params (nameValue name) = some v ∧ v ≠ .null := by
  rw [Template.given?]
  split
  · rename_i null
    rw [null]
    constructor
    · nofun
    · rintro ⟨⟨⟩, other⟩
      exact absurd rfl other
  · rename_i found
    constructor
    · intro given
      exact ⟨given, fun null => found (null ▸ given)⟩
    · exact And.left

theorem given?_iff_mem {params : Dict} (distinct : params.Distinct) {name : Option String}
    {v : Value} :
    Template.given? params name = some v ↔ (nameValue name, v) ∈ params ∧ v ≠ .null := by
  rw [given?_eq_some_iff, (exact_nameValue name).get?_eq_some_iff distinct]

/-- A template that is filled has a value for each of its placeholders. -/
theorem fill_eq_ok [Platform] {t : Template} {source address : String} {params : Dict}
    (h : t.fill source params = .ok address) :
    address = t.substitute (fun name => ((Template.given? params name).getD .null).display) ∧
      ∀ hole ∈ t.holes, ∃ v, Template.given? params hole.2 = some v := by
  rw [Template.fill] at h
  split at h
  · cases h
  · rename_i complete
    obtain ⟨-, -, filled⟩ := Outcome.bind_eq_ok.1 h
    cases filled
    refine ⟨rfl, fun hole mem => Option.isSome_iff_exists.1 ?_⟩
    have present := List.find?_eq_none.1 complete hole.2
      (mem_firsts.2 (List.mem_map_of_mem mem))
    simpa [Option.isSome_iff_ne_none] using present

namespace Dispatcher

variable {d : Dispatcher} {c : Call} {own : Dict}

/-! ## Requests -/

theorem option?_eq_some_iff {name : String} {v : Value} :
    option? c name = some v ↔ c.options.getText? name = some v ∧ v ≠ .null :=
  given?_eq_some_iff c.options (some name)

theorem mem_body {name : String} {v : Value} : (name, v) ∈ body c ↔
    name ∈ bodyOptions ∧ c.options.getText? name = some v ∧ v ≠ .null := by
  rw [body, List.mem_filterMap]
  constructor
  · rintro ⟨known, mem, made⟩
    obtain ⟨w, given, same⟩ := Option.map_eq_some_iff.1 made
    cases same
    exact ⟨mem, option?_eq_some_iff.1 given⟩
  · rintro ⟨mem, given⟩
    exact ⟨name, mem, Option.map_eq_some_iff.2 ⟨v, option?_eq_some_iff.2 given, rfl⟩⟩

theorem keys_body : ((body c).map Prod.fst).Sublist bodyOptions := by
  have kept : (body c).map Prod.fst = bodyOptions.filter fun name => (option? c name).isSome := by
    rw [body, List.map_filterMap, ← List.filterMap_eq_filter]
    refine congrArg (List.filterMap · bodyOptions) (funext fun name => ?_)
    cases given : option? c name <;> simp [Option.guard, given]
  rw [kept]
  exact List.filter_sublist

theorem query_of_stands (stands : Stands (c.attributes.getText? "query") own)
    {names : List (Option String)} {params : Dict} (h : query names c = .ok params) :
    params = Assoc.overlay own (queryParams names c.params) := by
  unfold query at h
  generalize c.attributes.getText? "query" = found at h stands
  cases stands with
  | absent =>
    cases h
    rfl
  | falsy empty =>
    dsimp only at h
    rw [if_neg (Bool.eq_false_iff.1 empty)] at h
    cases h
    rfl
  | mapping =>
    dsimp only at h
    split at h
    · cases h
      rfl
    · rename_i empty
      cases own with
      | nil =>
        cases h
        rfl
      | cons => exact absurd rfl empty

/-- The parameters of a request, under the names in the path template. -/
theorem query_of_request [Platform] {p : Pattern} {template : String} {r : Request}
    (readable : Pattern.of d.pattern = .ok p)
    (path : c.attributes.getText? "path_template" = some (.text template))
    (h : d.request c = .ok r) : query (p.names template) c = .ok r.params := by
  obtain ⟨names, named, queried⟩ := (makes_of_request h).params
  have read : d.pathNames c = .ok (p.names template) := by
    rw [pathNames, readable, path]
    rfl
  cases read.symm.trans named
  exact queried

/-- The request of a call whose address is filled in under the pattern of the dispatcher. -/
theorem places_of_request [Platform] {p : Pattern} {template : String} {r : Request}
    (readable : Pattern.of d.pattern = .ok p)
    (path : c.attributes.getText? "path_template" = some (.text template))
    (stands : Stands (c.attributes.getText? "query") own)
    (filled : p.interpolate template c.params = .ok c.address) (distinct : c.params.Distinct)
    (distinct' : own.Distinct) (h : d.request c = .ok r) :
    Places (Template.read p template) own c.params c.options r := by
  obtain ⟨-, address, -, -, bodies, timeout⟩ := makes_of_request h
  have queried := query_of_request readable path h
  generalize here : Template.read p template = t
  have query : r.params = Assoc.overlay own (t.leaves c.params) := by
    rw [query_of_stands stands queried, Pattern.names, here, queryParams_names]
  have filling : t.fill template c.params = .ok c.address := here ▸ filled
  obtain ⟨substituted, given⟩ := fill_eq_ok filling
  exact
    { address := by
        refine ⟨_, address.trans substituted, fun name v mem other => ?_⟩
        rw [(given?_iff_mem distinct).2 ⟨mem, other⟩, Option.getD_some]
      filled := fun hole mem => (given hole mem).imp fun _ => (given?_iff_mem distinct).1
      query := query
      path := fun hole mem => query ▸ under_overlay_of_used mem own c.params
      rest := fun name v mem other unused =>
        query ▸ under_overlay_of_unused distinct distinct' mem other unused
      body := fun name v => bodies ▸ mem_body
      order := bodies ▸ keys_body
      timeout := fun v => timeout ▸ option?_eq_some_iff }

end Dispatcher

/-! ## Functions of clients -/

section

variable {m : Type → Type} {ρ : Type}

/-- The functions of a client share their capability and their pattern. -/
theorem shared_of_addAll {capability : Capability m ρ} {pattern : Pattern}
    {functions fs : Assoc String (EndpointFunction m ρ)} {table : List Resolved}
    (h : Client.addAll capability pattern functions table = .ok fs)
    (before : ∀ e ∈ functions, e.2.capability = capability ∧ e.2.pattern = pattern) :
    ∀ e ∈ fs, e.2.capability = capability ∧ e.2.pattern = pattern := by
  induction table generalizing functions with
  | nil =>
    cases h
    exact before
  | cons r table ih =>
    obtain ⟨id, -, h⟩ := Outcome.bind_eq_ok.1 h
    split at h
    · cases h
    · have shared : ∀ e ∈ Assoc.insert functions id ⟨r, capability, pattern⟩,
          True ∧ e.2.capability = capability ∧ e.2.pattern = pattern :=
        Assoc.forall_insert (P := fun _ => True)
          (Q := fun f => f.capability = capability ∧ f.pattern = pattern)
          (fun e he => ⟨trivial, before e he⟩) trivial ⟨rfl, rfl⟩
      exact ih h fun e he => (shared e he).2

theorem mem_of_found {client : Client m ρ} {id : String} {f : EndpointFunction m ρ}
    (h : client.item id = .ok f ∨ client.member id = .ok f) : (id, f) ∈ client.functions := by
  rcases h with h | h
  · rw [Client.item] at h
    split at h <;> cases h
    exact Assoc.mem_of_get? ‹_›
  · rw [Client.member] at h
    split at h
    · cases h
    · split at h <;> cases h
      exact Assoc.mem_of_get? ‹_›

/-- The functions of a generated client have the capability it was generated with, but for a
validator of its own, and the pattern. -/
theorem shared_of_generate [Platform] [Monad m] {table : List Resolved} {own : Capability m ρ}
    {validator : Option (Value → Value → m Bool)} {choice : PatternChoice} {client : Client m ρ}
    (h : Client.generate table (some own) none validator choice = .ok client) :
    ∀ e ∈ client.functions, e.2.capability = ⟨own.dispatch, validator.getD own.accepts⟩ ∧
      Pattern.of choice = .ok e.2.pattern := by
  obtain ⟨pattern, readable, h⟩ := Outcome.bind_eq_ok.1 h
  obtain ⟨fs, added, h⟩ := Outcome.bind_eq_ok.1 h
  cases h
  -- Without a validator, the capability of the functions is the one that is given.
  have accepts : (validator <|> some own.accepts).getD (fun _ _ => pure true) =
      validator.getD own.accepts := by
    cases validator <;> rfl
  intro e he
  obtain ⟨capability, same⟩ :=
    shared_of_addAll (Outcome.mapError_eq_ok.1 added) (List.forall_mem_nil _) e he
  refine ⟨capability.trans ?_, same ▸ readable⟩
  rw [← accepts]
  rfl

end

/-! ## Calls -/

section

variable {A : Act → Prop} {ρ : Type} {f : EndpointFunction RunM ρ} {params : Dict}

theorem confined_firstRefused? {accepts : Value → Value → RunM Bool}
    (silent : ∀ key value, Confined A (fun _ => True) (accepts key value)) (params : Dict) :
    Confined A (fun _ => True) (EndpointFunction.firstRefused? accepts params) := by
  induction params with
  | nil => exact .pure _
  | cons e rest ih =>
    refine .bind (silent e.1 e.2) fun accepted => ?_
    split
    · exact ih
    · exact .pure _

/-- A call does what the validator does, and the dispatch of the call whose address is filled in. -/
theorem confined_call [Platform]
    (silent : ∀ key value, Confined A (fun _ => True) (f.capability.accepts key value))
    {options : Dict} (dispatches : ∀ address,
      f.pattern.interpolate f.endpoint.path params = .ok address →
        Confined A (fun _ => True) (f.capability.dispatch (f.request params options address))) :
    Confined A (fun _ => True) (f.call params options) := by
  refine .bind ?_ fun rejection => ?_
  · unfold EndpointFunction.rejection?
    split
    · exact .pure _
    · refine .bind (confined_firstRefused? silent params) fun refused => ?_
      split <;> exact .pure _
  · split
    · exact .pure _
    · split
      · exact .pure _
      · rename_i address filled
        exact .bind (dispatches address filled) fun _ => .pure _

end

theorem Dispatcher.confined_recorded [Platform] {A : Act → Prop} {d : Dispatcher} {c : Call}
    (others : ∀ a, a.request? = none → a.isConnection = false → A a)
    (sends : ∀ r, d.request c = .ok r → A (.request r)) :
    Confined A (fun _ => True) ((Cli.Context.recorded d).dispatch c) := by
  refine .bind (.note (others _ rfl rfl)) fun _ => ?_
  refine .ofExcept_bind (fun _ _ => trivial) fun r made => ?_
  split
  · have rehearsed :=
      (confined_rehearse (fun _ => others _ rfl rfl) d r).mono (fun _ h => h) fun _ _ => trivial
    exact rehearsed.bind fun _ => .pure _
  · refine .bind (confined_attempt (fun _ _ => others _ rfl rfl) (fun _ => others _ rfl rfl)
      (fun _ _ => trivial) d (sends r made) _) fun e => ?_
    cases e with
    | reply r =>
      rw [Dispatcher.outcome]
      split
      · exact .ofExcept_bind (fun _ _ => trivial) fun _ _ => .pure _
      · exact .pure _
    | fault kind detail =>
      rw [Dispatcher.outcome]
      split
      · exact .pure _
      · exact .throw trivial
    | badAddress detail => exact .throw trivial

/-- **A call uses each of its parameters once.** The pattern of a client that was generated with
that of its dispatcher is the same for both. Every request that a call sends has the parameters of
the path in the places of their placeholders and the others, in order, over the `query` attribute;
the null ones are left out. Its bodies and its timeout are those among the options that are not
null. -/
theorem call_places [Platform] (d : Dispatcher) {table : List Resolved}
    {validator : Option (Value → Value → RunM Bool)}
    {client : Client RunM (Except Failure Response)} {id : String}
    {f : EndpointFunction RunM (Except Failure Response)} {own params : Dict}
    (silent : ∀ check, validator = some check → ∀ key value,
      Confined (fun a => a.request? = none) (fun _ => True) (check key value))
    (generated : Client.generate table (some (Cli.Context.recorded d)) none validator d.pattern =
      .ok client)
    (found : client.item id = .ok f ∨ client.member id = .ok f)
    (stands : Stands (Assoc.get? f.endpoint.attributes "query") own)
    (distinct : params.Distinct) (distinct' : own.Distinct) (options : Dict) (s : Run) :
    Pattern.of d.pattern = .ok f.pattern ∧
    ∃ result acts s', RunM.Ends (f.call params options) s result acts s' ∧
      ∀ r ∈ acts.filterMap Act.request?,
        Places (Template.read f.pattern f.endpoint.path) own params options r := by
  obtain ⟨capability, readable⟩ := shared_of_generate generated _ (mem_of_found found)
  refine ⟨readable, ?_⟩
  let A : Act → Prop := fun a => ∀ r, a.request? = some r →
    Places (Template.read f.pattern f.endpoint.path) own params options r
  have others : ∀ a : Act, a.request? = none → A a := by
    intro a none r sends
    rw [none] at sends
    cases sends
  have accepts : ∀ key value, Confined A (fun _ => True) (f.capability.accepts key value) := by
    intro key value
    rw [capability]
    cases validator with
    | none => exact .pure _
    | some check => exact (silent check rfl key value).mono others fun _ _ => trivial
  have dispatches : ∀ address, f.pattern.interpolate f.endpoint.path params = .ok address →
      Confined A (fun _ => True) (f.capability.dispatch (f.request params options address)) := by
    intro address filled
    rw [capability]
    refine Dispatcher.confined_recorded (fun a none _ => others a none) fun r made r' sends => ?_
    cases sends
    have query : f.endpoint.dispatchAttributes.getText? "query" = _ :=
      getText?_dispatchAttributes f.endpoint (by decide)
    exact Dispatcher.places_of_request readable (getText?_path_template f.endpoint)
      (query ▸ stands) filled distinct distinct' made
  have confined := confined_call accepts dispatches
  obtain ⟨acts, ends, kinds⟩ := confined.exists_ends (s := s) rfl
  refine ⟨_, acts, _, ends, fun r hr => ?_⟩
  obtain ⟨a, ha, sends⟩ := List.mem_filterMap.1 hr
  exact kinds a ha r sends

/-- An endpoint with a placeholder that stands twice in its path, and with a query of its own. -/
def comment : Resolved where
  id := "post"
  path := "https://svc.com/\x7bid\x7d/\x7bid\x7d"
  method := .post
  attributes := [("query", .dict [(.text "page", .int 1), (.text "id", .int 9)])]

theorem read_comment : Template.read .usual comment.path =
    ⟨[("https://svc.com/".toList, some "id"), ("/".toList, some "id")], []⟩ := by
  decide +kernel

theorem call_places_comment :
    let _ : Platform := .usual
    let d : Dispatcher := ⟨{}, false, .usual, ⟨.json, true, false, false⟩⟩
    let f : EndpointFunction RunM (Except Failure Response) :=
      ⟨comment, Cli.Context.recorded d, .usual⟩
    let params : Dict := [(.text "id", .int 7), (.text "page", .int 2), (.text "sort", .null)]
    let options : Dict := [(.text "json", .text "hi"), (.text "timeout", .int 5)]
    let s : Run := { world := ⟨⟨"/", []⟩, [], [], fun _ => 0, fun _ => none⟩ }
    ∃ result acts s' r, RunM.Ends (f.call params options) s result acts s' ∧
      acts.filterMap Act.request? = [r] ∧ r.address = "https://svc.com/7/7" ∧
      r.params.under (.text "id") = [(.text "id", .int 9)] ∧
      r.params.under (.text "page") = [(.text "page", .int 2)] ∧ r.timeout = some (.int 5) := by
  intro _ d f params options s
  have proper : checkId comment.path (some "post") = .ok "post" := by
    rw [checkId, if_neg (by decide), if_neg (by decide +kernel), if_neg (by decide +kernel)]
  have generated : Client.generate [comment] (some (Cli.Context.recorded d)) none none d.pattern =
      .ok ⟨[("post", f)]⟩ :=
    generate_of_proper none rfl rfl (List.forall_mem_singleton.2 proper)
      (List.pairwise_singleton _ _)
  have distinct : params.Distinct ∧
      Assoc.Distinct [(Value.text "page", Value.int 1), (Value.text "id", Value.int 9)] := by
    decide +kernel
  have item : Client.item ⟨[("post", f)]⟩ "post" = .ok f := rfl
  have stands : Stands (Assoc.get? f.endpoint.attributes "query")
      [(.text "page", .int 1), (.text "id", .int 9)] := .mapping _
  have silent : ∀ check, (none : Option (Value → Value → RunM Bool)) = some check →
      ∀ key value, Confined (fun a => a.request? = none) (fun _ => True) (check key value) := by
    rintro _ ⟨⟩
  obtain ⟨-, result, acts, s', ends, places⟩ :=
    call_places d silent generated (.inl item) stands distinct.1 distinct.2 options s
  have trace : s'.trace = acts := ends.grows
  have once : (acts.filterMap Act.request?).length = 1 := by
    have computed : ((outcome (f.call params options) s).2.trace.filterMap Act.request?).length =
        1 := by decide +kernel
    rwa [ends.ends, trace] at computed
  obtain ⟨r, sent⟩ := List.length_eq_one_iff.1 once
  have placed := places r (sent ▸ List.mem_singleton_self r)
  rw [read_comment] at placed
  obtain ⟨value, address, texts⟩ := placed.address
  have seven : value (some "id") = "7" :=
    texts (some "id") (.int 7) (by simp [params, nameValue]) (by rintro ⟨⟩)
  refine ⟨result, acts, s', r, ends, sent, ?_, ?_, ?_, ?_⟩
  · rw [address, Template.substitute]
    simp [seven]
  · have own := (Value.exact_text "id").under_of_mem distinct.2
      (List.mem_cons_of_mem _ List.mem_cons_self)
    exact (placed.path ("/".toList, some "id") (by simp)).trans own
  · exact placed.rest (some "page") (.int 2) (by simp [params, nameValue]) (by rintro ⟨⟩) (by simp)
  · exact (placed.timeout _).2 ⟨by simp [options], by rintro ⟨⟩⟩

end RouteSchema
