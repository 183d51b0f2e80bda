import RouteSchema.Proofs.Loading
import RouteSchema.Proofs.Mirroring

/-!
# What listings hide

A listing names the endpoints of a schema with the keys of their attributes. It neither computes nor
shows the value of any of them, so that it cannot tell apart two documents that only differ in these
values, nor two worlds that only differ where such a value would be looked up.

* `Document.outline` forgets the values of attributes, and `Node.blank` those of a tree: the tree of
  an outline is the blank tree (`tree_outline`).
* `flatten_blank`: the table of a blank tree.
* `Steady`: a step does the same in every run, and changes nothing.
* `listing_hides`: listings of documents with one outline in worlds that settings do not tell apart.
-/

namespace RouteSchema

open Stateful

/-! ## Outlines of documents -/

namespace Document

mutual

/-- A document with the null value in the place of the value of every attribute. -/
def outline : Value → Value
  | .dict entries => .dict (outlineEntries entries)
  | v => v

/-- The entries of a node, without the values of attributes in it and below it. -/
def outlineEntries : List (Value × Value) → List (Value × Value)
  | [] => []
  | (key, v) :: rest =>
    (key, if key == .text "attributes" then outlineAttributes v
      else if key == .text "routes" then outlineRoutes v else v) :: outlineEntries rest

/-- What stands under `attributes`, without the values. -/
def outlineAttributes : Value → Value
  | .dict attributes => .dict (attributes.map fun e => (e.1, .null))
  | v => v

/-- What stands under `routes`, without the values of attributes. -/
def outlineRoutes : Value → Value
  | .dict routes => .dict (outlineNodes routes)
  | v => v

/-- Nodes by segment, without the values of attributes. -/
def outlineNodes : List (Value × Value) → List (Value × Value)
  | [] => []
  | (segment, v) :: rest => (segment, outline v) :: outlineNodes rest

end

theorem outlineNodes_eq (routes : Dict) :
    outlineNodes routes = routes.map fun e => (e.1, outline e.2) := by
  induction routes with
  | nil => rfl
  | cons e rest ih => rw [outlineNodes, ih, List.map_cons]

theorem getText?_outlineEntries (entries : Dict) (key : String) :
    Dict.getText? (outlineEntries entries) key = (Dict.getText? entries key).map fun v =>
      if key = "attributes" then outlineAttributes v
      else if key = "routes" then outlineRoutes v else v := by
  induction entries with
  | nil => rfl
  | cons e rest ih =>
    obtain ⟨k, v⟩ := e
    show (if k == .text key then _ else Dict.getText? (outlineEntries rest) key) =
      (if k == .text key then some v else Dict.getText? rest key).map _
    split
    · rename_i same
      obtain rfl := Value.eq_of_beq_text same
      simp
    · exact ih

theorem keys_outlineEntries (entries : Dict) :
    Assoc.keys (outlineEntries entries) = Assoc.keys entries := by
  induction entries with
  | nil => rfl
  | cons e rest ih => exact congrArg (e.1 :: ·) ih

theorem forall_keys_outlineEntries {P : Value → Prop} {entries : Dict}
    (h : ∀ e ∈ entries, P e.1) : ∀ e ∈ outlineEntries entries, P e.1 := by
  intro e he
  have key : e.1 ∈ Assoc.keys entries := keys_outlineEntries entries ▸ List.mem_map_of_mem he
  obtain ⟨e', he', same⟩ := List.mem_map.1 key
  exact same ▸ h e' he'

theorem erase_outlineEntries (entries : Dict) (key : Value) :
    Assoc.erase (outlineEntries entries) key = outlineEntries (Assoc.erase entries key) := by
  induction entries with
  | nil => rfl
  | cons e rest ih =>
    rw [outlineEntries, Assoc.erase, Assoc.erase, List.filter_cons, List.filter_cons]
    dsimp only
    split
    · rw [outlineEntries]
      exact congrArg _ ih
    · exact ih

theorem part?_outlineEntries (entries : Dict) {key : String} {mask : Value → Value}
    {inside : Dict → Dict}
    (found : Dict.getText? (outlineEntries entries) key = (Dict.getText? entries key).map mask)
    (empty : inside [] = []) (truthy : ∀ v, (mask v).truthy = v.truthy)
    (dict : ∀ v, (mask v).dict? = v.dict?.map inside) :
    part? (outlineEntries entries) key = (part? entries key).map inside := by
  rw [part?, part?, found]
  cases Dict.getText? entries key with
  | none => exact congrArg some empty.symm
  | some v =>
    dsimp only [Option.map_some]
    rw [truthy, dict]
    split
    · rfl
    · exact congrArg some empty.symm

theorem part?_outline_attributes (entries : Dict) :
    part? (outlineEntries entries) "attributes" =
      (part? entries "attributes").map (List.map fun e => (e.1, .null)) := by
  refine part?_outlineEntries entries (getText?_outlineEntries entries _) rfl (fun v => ?_)
    fun v => ?_
  · cases v with
    | dict es => cases es <;> rfl
    | _ => rfl
  · cases v <;> rfl

theorem part?_outline_routes (entries : Dict) :
    part? (outlineEntries entries) "routes" = (part? entries "routes").map outlineNodes := by
  refine part?_outlineEntries entries (getText?_outlineEntries entries _) rfl (fun v => ?_)
    fun v => ?_
  · cases v with
    | dict es => cases es <;> rfl
    | _ => rfl
  · cases v <;> rfl

end Document

/-! ## Trees without values -/

/-- An attribute with the null value in the place of its own. -/
def Attribute.blank (a : Attribute) : Attribute := .literal a.key .null

mutual

/-- A node without the values of attributes in it and below it. -/
def Node.blank : Node → Node
  | ⟨attributes, children, endpoint, method⟩ =>
    ⟨attributes.map Attribute.blank, blankChildren children, endpoint, method⟩

/-- Children without the values of attributes. -/
def blankChildren : List (String × Node) → List (String × Node)
  | [] => []
  | (segment, child) :: rest => (segment, child.blank) :: blankChildren rest

end

/-- A tree without the values of attributes. -/
def SchemaTree.blank (t : SchemaTree) : SchemaTree := ⟨t.address, t.root.blank⟩

theorem blankChildren_eq (children : List (String × Node)) :
    blankChildren children = children.map fun c => (c.1, c.2.blank) := by
  induction children with
  | nil => rfl
  | cons c rest ih => rw [blankChildren, ih, List.map_cons]

namespace Document

/-- The node of an outline is the blank node. -/
theorem node_outline [Platform] (v : Value) : ∀ {location : String} {n : Node},
    node location v = .ok n → node location (outline v) = .ok n.blank := by
  induction v using node_induction with
  | other v other =>
    intro location n h
    obtain ⟨entries, -, -, -, rfl, -⟩ := node_eq_ok h
    cases other
  | mapping entries ih =>
    intro location n h
    obtain ⟨declared, routes, children, keys, own, attributes, under, nodes, same, labelled⟩ :=
      node_eq_ok_iff.1 h
    obtain ⟨own', below, endpoint, method⟩ := n
    refine node_eq_ok_iff.2 ⟨declared.map fun e => (e.1, .null), outlineNodes routes,
      children.map fun c => (c.1, c.2.blank), ?_, ?_, ?_, ?_, ?_, ?_, ?_⟩
    · exact forall_keys_outlineEntries (P := fun k => ∃ key ∈ nodeKeys, k = .text key) keys
    · rw [part?_outline_attributes, own, Option.map_some]
    · refine Outcome.mapM_eq_ok.2 (List.forall₂_map_left_iff.2 (List.forall₂_map_right_iff.2 ?_))
      refine (Outcome.mapM_eq_ok.1 attributes).imp fun e a declares => ?_
      have named := (exists_declaration_iff.1 ⟨a, declares⟩).2 e.1 List.mem_cons_self
      rw [Attribute.blank, (rereads_declaration declares).1]
      exact Outcome.bind_eq_ok.2 ⟨_, named.asText, rfl⟩
    · rw [part?_outline_routes, under, Option.map_some]
    · rw [outlineNodes_eq, nodes_eq_ok_iff]
      obtain ⟨segments, parallel⟩ := nodes_eq_ok_iff.1 nodes
      refine ⟨List.forall_mem_map.2 segments, ?_⟩
      refine List.forall₂_map_left_iff.2 (List.forall₂_map_right_iff.2 ?_)
      refine ((List.forall₂_and_left _ _).2 ⟨ih routes under, parallel⟩).imp ?_
      exact fun e c ⟨step, segment, read⟩ => ⟨segment, step read⟩
    · show blankChildren below = _
      rw [blankChildren_eq, Assoc.ofList_map, ← same]
    · have kept : ∀ key, key ≠ "attributes" → key ≠ "routes" →
          Dict.getText? (outlineEntries entries) key = Dict.getText? entries key := by
        intro key other another
        simp [getText?_outlineEntries, other, another]
      have named := kept "endpoint" (by decide) (by decide)
      have verb := kept "method" (by decide) (by decide)
      cases labelled with
      | route unnamed plain => exact .route (named ▸ unnamed) (verb ▸ plain)
      | endpoint named' valid => exact .endpoint (named ▸ named') (verb ▸ valid)

/-- The tree of an outline is the blank tree. -/
theorem tree_outline [Platform] {v : Value} {t : SchemaTree} (h : tree v = .ok t) :
    tree (outline v) = .ok t.blank := by
  obtain ⟨entries, rfl, keys, root, nonempty, read⟩ := tree_eq_ok_iff.1 h
  refine tree_eq_ok_iff.2 ⟨outlineEntries entries, rfl, ?_, ?_, nonempty, ?_⟩
  · exact forall_keys_outlineEntries (P := fun k => ∃ key ∈ rootKeys, k = .text key) keys
  · rw [getText?_outlineEntries, root]
    rfl
  · rw [erase_outlineEntries]
    exact node_outline _ read

end Document

/-! ## Tables without values -/

/-- A definition without the values of its attributes. -/
def Definition.blank (d : Definition) : Definition :=
  { d with attributes := d.attributes.map fun e => (e.1, e.2.blank) }

theorem mergeAttributes_blank (own : List Attribute) (inherited : Assoc String Attribute) :
    mergeAttributes (inherited.map fun e => (e.1, e.2.blank)) (own.map Attribute.blank) =
      (mergeAttributes inherited own).map (List.map fun e => (e.1, e.2.blank)) := by
  induction own generalizing inherited with
  | nil => rfl
  | cons a own ih =>
    rw [List.map_cons, mergeAttributes, mergeAttributes]
    show (if reservedKeys.contains a.key then _ else _) = _
    split
    · rfl
    · rw [← ih, ← Assoc.insert_map]
      rfl

mutual

theorem definitions_blank (path : String) (inherited : Assoc String Attribute) (n : Node) :
    n.blank.definitions path (inherited.map fun e => (e.1, e.2.blank)) =
      (n.definitions path inherited).map (List.map Definition.blank) := by
  obtain ⟨own, children, endpoint, method⟩ := n
  rw [Node.blank, Node.definitions, Node.definitions, mergeAttributes_blank]
  cases mergeAttributes inherited own with
  | error fault => rfl
  | ok attributes =>
    cases endpoint with
    | none => exact definitionsBelow_blank path attributes children
    | some id =>
      show (checkId path (some id) >>= _) = (checkId path (some id) >>= _).map _
      cases checkId path (some id) <;> rfl

theorem definitionsBelow_blank (path : String) (inherited : Assoc String Attribute)
    (children : List (String × Node)) :
    definitionsBelow path (inherited.map fun e => (e.1, e.2.blank)) (blankChildren children) =
      (definitionsBelow path inherited children).map (List.map Definition.blank) := by
  match children with
  | [] => rfl
  | (segment, child) :: rest =>
    rw [blankChildren, definitionsBelow, definitionsBelow, definitions_blank,
      definitionsBelow_blank path inherited rest]
    cases child.definitions (Path.join path [segment]) inherited with
    | error fault => rfl
    | ok first =>
      cases definitionsBelow path inherited rest with
      | error fault => rfl
      | ok others => exact congrArg Except.ok List.map_append.symm

end

theorem firstRepeated?_blank (seen : Assoc String String) (table : List Definition) :
    firstRepeated? seen (table.map Definition.blank) = firstRepeated? seen table := by
  induction table generalizing seen with
  | nil => rfl
  | cons d rest ih =>
    rw [List.map_cons, firstRepeated?, firstRepeated?, ← ih]
    rfl

/-- The table of a blank tree is the blank table. -/
theorem flatten_blank (t : SchemaTree) :
    t.blank.flatten = t.flatten.map (List.map Definition.blank) := by
  have definitions := definitions_blank t.address [] t.root
  rw [SchemaTree.flatten, SchemaTree.flatten]
  show (t.root.blank.definitions t.address [] >>= _) = _
  rw [show t.root.blank.definitions t.address [] = _ from definitions]
  cases t.root.definitions t.address [] with
  | error fault => rfl
  | ok table =>
    simp only [Except.map, bind, Except.bind, firstRepeated?_blank]
    cases firstRepeated? [] table <;> rfl

theorem row_blank (p : Pattern) (d : Definition) :
    Cli.Context.row p d.blank = Cli.Context.row p d := by
  have keys : Assoc.keys d.blank.attributes = Assoc.keys d.attributes := List.map_map
  rw [Cli.Context.row, Cli.Context.row, keys]
  rfl

/-! ## Steps that do the same in every run -/

/-- Whether something is shown, on the standard output or on the standard error. -/
def Act.isOutput : Act → Bool
  | .showing _ | .log _ _ | .help | .usage | .crash _ => true
  | .request _ | .fetch _ | .pause _ | .opening _ | .closing => false

namespace RunM

variable {α β : Type}

/-- A step ends in the same way in every run, and does nothing but add the same acts to its trace. -/
def Steady (step : RunM α) : Prop := ∃ result acts, ∀ s : Run, Adds step s result acts

namespace Steady

protected theorem pure (a : α) : Steady (pure a) := ⟨.ok a, [], fun _ => .of_still rfl⟩

theorem ofExcept (x : Except Failure α) : Steady (RunM.ofExcept x) := ⟨x, [], Adds.ofExcept x⟩

theorem present (shown : List Shown) : Steady (RunM.present shown) :=
  ⟨.ok (), shown.map .showing, fun s => outcome_present s shown⟩

theorem note (r : Report) (channel message : String) : Steady (RunM.note r channel message) :=
  ⟨.ok (), _, fun s => outcome_note s r channel message⟩

protected theorem bind {step : RunM α} {next : α → RunM β} (first : Steady step)
    (rest : ∀ a, Steady (next a)) : Steady (step >>= next) := by
  obtain ⟨result, acts, adds⟩ := first
  cases result with
  | error f => exact ⟨.error f, acts, fun s => (adds s).bind_error next⟩
  | ok a =>
    obtain ⟨result, more, adds'⟩ := rest a
    exact ⟨result, acts ++ more, fun s => (adds s).bind (adds' _)⟩

end Steady

end RunM

/-! ## Listings -/

namespace Cli

namespace Context

/-- A tree with the address of the settings in the place of its own, if they have one. -/
def placed (r : Report) (s : Settings) (t : SchemaTree) : RunM SchemaTree :=
  match s.address with
  | none => pure t
  | some address =>
    if address == "" then pure t
    else do
      RunM.present (r.debug ("Replacing root URL " ++ t.address ++ " with " ++ address))
      return { t with address }

/-- Lists the table of a tree. -/
def listTable [Platform] (r : Report) (p : Pattern) (t : SchemaTree) : RunM Unit := do
  let table ← RunM.ofExcept (t.flatten.mapError .authoring)
  RunM.note r "restez.schema.flattener"
    ("Flattened schema " ++ t.address ++ " into " ++ toString table.length ++ " endpoint(s)")
  let rows ← RunM.ofExcept (table.mapM (row p))
  let title := t.address ++ " -- Endpoints (" ++ toString rows.length ++ ")"
  showAll (r.tableSteps headings rows (some title))

/-- What a listing does with a tree that is loaded. -/
def list [Platform] (r : Report) (s : Settings) (t : SchemaTree) : RunM Unit :=
  placed r s t >>= listTable r s.pattern

theorem ofTree_bind {α : Type} (t : SchemaTree) {next : Compiled → RunM α}
    {next' : List Definition → RunM α} (same : ∀ table h, next ⟨t, table, h⟩ = next' table) :
    (RunM.ofExcept ((Compiled.ofTree t).mapError .authoring) >>= next) =
      RunM.ofExcept (t.flatten.mapError .authoring) >>= next' := by
  cases flattened : t.flatten with
  | error fault =>
    have refused : Compiled.ofTree t = .error fault := by
      unfold Compiled.ofTree
      split <;> simp_all
    rw [refused]
    rfl
  | ok table =>
    rw [Compiled.ofTree_of_flatten flattened]
    exact same table flattened

theorem placedTree_eq [Platform] (x : Context) (source : String) (s : Settings) :
    x.placedTree source s = x.tree source >>= placed x.report s := rfl

theorem endpoints_eq [Platform] (x : Context) (source : String) : x.endpoints source = (do
    let s ← x.settings
    let t ← x.tree source
    list x.report s t) := by
  rw [endpoints]
  refine congrArg (x.settings >>= ·) (funext fun s => ?_)
  simp only [compiled, placedTree_eq, list, bind_assoc, pure_bind]
  refine congrArg (x.tree source >>= ·) (funext fun t => ?_)
  exact congrArg (placed x.report s t >>= ·) (funext fun t => ofTree_bind t fun table h => rfl)

theorem steady_list [Platform] (r : Report) (s : Settings) (t : SchemaTree) :
    RunM.Steady (list r s t) := by
  refine .bind ?_ fun t => .bind (.ofExcept _) fun table => .bind (.note _ _ _) fun _ =>
    .bind (.ofExcept _) fun rows => ⟨_, _, adds_showAll _⟩
  unfold placed
  split
  · exact .pure t
  · split
    · exact .pure t
    · exact .bind (.present _) fun _ => .pure _

theorem listTable_blank [Platform] (r : Report) (p : Pattern) (t : SchemaTree) :
    listTable r p t.blank = listTable r p t := by
  rw [listTable, listTable, flatten_blank]
  cases t.flatten with
  | error fault => rfl
  | ok table =>
    have rows : (table.map Definition.blank).mapM (row p) = table.mapM (row p) := by
      rw [List.mapM_map]
      exact congrArg (table.mapM ·) (funext (row_blank p))
    have size : (table.map Definition.blank).length = table.length := List.length_map _
    show (do
      RunM.note r _ (_ ++ toString (table.map Definition.blank).length ++ _)
      let rows ← RunM.ofExcept ((table.map Definition.blank).mapM (row p))
      _) = _
    rw [rows, size]
    rfl

/-- A listing does the same with a tree and with the blank tree. -/
theorem list_blank [Platform] (r : Report) (s : Settings) (t : SchemaTree) :
    list r s t.blank = list r s t := by
  have kept : (pure t.blank >>= listTable r s.pattern) = pure t >>= listTable r s.pattern := by
    rw [pure_bind, pure_bind, listTable_blank]
  rw [list, list, placed, placed]
  cases s.address with
  | none => exact kept
  | some address =>
    dsimp only
    split
    · exact kept
    · rw [bind_assoc, bind_assoc]
      refine congrArg (RunM.present _ >>= ·) (funext fun _ => ?_)
      rw [pure_bind, pure_bind]
      exact listTable_blank r s.pattern { t with address }

end Context

/-! ## Command lines -/

theorem report_of_indistinct {s s' : Run} (h : Indistinct s.world s'.world)
    (library' : Library) (terminal : Bool) (shared : Shared) :
    (Context.of library terminal shared s).report =
      (Context.of library' terminal shared s').report := by
  show Report.of _ _ _ _ _ _ = Report.of _ _ _ _ _ _
  rw [Report.of, Report.of, Report.refusesColour, Report.refusesColour,
    h.environ "NO_COLOR" (by decide), h.environ "TERM" (by decide)]

theorem output_append {before : List Act} (silent : ∀ a ∈ before, a.isOutput = false)
    (acts : List Act) : (before ++ acts).filter Act.isOutput = acts.filter Act.isOutput := by
  rw [List.filter_append, List.filter_eq_nil_iff.2 fun a ha => by simp [silent a ha],
    List.nil_append]

section

variable [Platform] {s : Run} {source : String}

/-- A source names a document: the document is loaded from it, or the source is a reference to a
member of a module that holds its tree. -/
inductive Names (library : Library) (s : Run) (source : String) (v : Value) : Prop
  | document (direct : Direct s.world source) (comes : Load.Comes s source (.ok v))
  | member (reference : Library.isReference source = true)
      (absent : s.world.find (.ofString source) = .nothing)
      (holds : ∀ t, Document.tree v = .ok t → library.tree source = .ok t)

variable {library : Library} {v : Value} {t : SchemaTree}

/-- The tree of a document that a source names is loaded without a word. -/
theorem adds_tree_of_names {x : Context} (names : Names x.library s source v)
    (loads : Document.tree v = .ok t) : ∃ acts, (∀ a ∈ acts, a.isOutput = false) ∧
      RunM.Adds (x.tree source) s (.ok t) acts := by
  cases names with
  | document direct comes =>
    have loaded : outcome (Load.tree source) s = _ :=
      Load.adds_tree (Load.tree_of_loads (.tree comes loads))
    refine ⟨_, fun a ha => ?_, (tree_of_direct direct).trans loaded⟩
    unfold Load.fetches at ha
    split at ha
    · rw [List.mem_singleton.1 ha]
      rfl
    · exact absurd ha List.not_mem_nil
  | member reference absent holds =>
    refine ⟨[], List.forall_mem_nil _, .of_still ?_⟩
    have looked : outcome (RunM.ofEval <| Eval.entry? (.ofString source)) s = (.ok none, s) := by
      rw [RunM.outcome_ofEval, outcome_lookup, absent]
    rw [Context.tree, if_pos reference, outcome_bind_ok looked]
    exact Prod.ext (holds t loads) rfl

/-- A listing of a document does what it does with the blank tree, after loading without a word. -/
theorem adds_endpoints {x : Context} {settings : Settings} {result : Except Failure Unit}
    {acts : List Act} (computed : (outcome x.settings s).1 = .ok settings)
    (names : Names x.library s source v) (loads : Document.tree v = .ok t)
    (lists : ∀ s : Run, RunM.Adds (Context.list x.report settings t.blank) s result acts) :
    ∃ before, (∀ a ∈ before, a.isOutput = false) ∧
      RunM.Adds (x.run (.endpoints source)) s result (before ++ acts) := by
  obtain ⟨before, silent, loaded⟩ := adds_tree_of_names names loads
  refine ⟨before, silent, ?_⟩
  simp only [Context.list_blank] at lists
  have first : RunM.Adds x.settings s (.ok settings) [] := adds_settings computed
  have rest : RunM.Adds (do Context.list x.report settings (← x.tree source))
      { s with trace := s.trace ++ [] } result (before ++ acts) := by
    rw [List.append_nil]
    exact loaded.bind (lists _)
  show RunM.Adds (x.endpoints source) s _ _
  rw [x.endpoints_eq]
  exact first.bind rest

/-- **A listing hides the values of attributes.** Two documents with trees that only differ in values
of attributes are listed with the same exit code and the same output, in worlds that only differ in
what settings do not consult; and listing changes nothing in either world. -/
theorem listing_hides (library library' : Library) (terminal : Bool) {args args' : List String}
    {shared : Shared} {source source' : String} {s s' : Run} {v v' : Value} {t t' : SchemaTree}
    (line : Line.read args = .command shared (.endpoints source))
    (line' : Line.read args' = .command shared (.endpoints source'))
    (same : Indistinct s.world s'.world) (names : Names library s source v)
    (names' : Names library' s' source' v') (loads : Document.tree v = .ok t)
    (loads' : Document.tree v' = .ok t') (outline : Document.outline v = Document.outline v') :
    ∃ code acts acts', RunM.Adds (runLine library terminal args) s (.ok code) acts ∧
      RunM.Adds (runLine library' terminal args') s' (.ok code) acts' ∧
      acts.filter Act.isOutput = acts'.filter Act.isOutput := by
  let x := Context.of library terminal shared s
  let x' := Context.of library' terminal shared s'
  have report : x.report = x'.report := report_of_indistinct same library' terminal shared
  have blank : t.blank = t'.blank := by
    have described := Document.tree_outline loads
    rw [outline, Document.tree_outline loads'] at described
    exact (Except.ok.inj described).symm
  obtain ⟨result, here, there⟩ := alike_resolve same shared.pattern shared.address
  have computed : (outcome x.settings s).1 = result := congrArg Prod.fst here
  have computed' : (outcome x'.settings s').1 = result := congrArg Prod.fst there
  cases result with
  | error f =>
    have fails : RunM.Adds (x.run (.endpoints source)) s (.error f) [] :=
      (adds_settings computed).bind_error _
    have fails' : RunM.Adds (x'.run (.endpoints source')) s' (.error f) [] :=
      (adds_settings computed').bind_error _
    refine ⟨_, _, _, adds_runLine line fails, adds_runLine line' fails', ?_⟩
    rw [show (Context.of library terminal shared s).report = _ from report]
  | ok settings =>
    obtain ⟨result, acts, lists⟩ := Context.steady_list x.report settings t.blank
    obtain ⟨before, silent, adds⟩ := adds_endpoints computed names loads lists
    rw [report, blank] at lists
    obtain ⟨before', silent', adds'⟩ := adds_endpoints computed' names' loads' lists
    refine ⟨_, _, _, adds_runLine line adds, adds_runLine line' adds', ?_⟩
    rw [List.append_assoc, List.append_assoc, output_append silent, output_append silent',
      show (Context.of library terminal shared s).report = _ from report]

/-- A document with a token. -/
def guarded (token : Value) : Value := .dict
  [(.text "root", .text "https://svc.com"),
    (.text "attributes", .dict [(.text "token", token)]),
    (.text "routes", .dict [(.text "notes", .dict [(.text "endpoint", .text "note")])])]

theorem names_member {t : SchemaTree} (environ : Assoc String String)
    (loads : Document.tree v = .ok t) :
    Names [("m", [("t", .tree t)])] (visit environ []) "m:t" v := by
  refine .member (by decide +kernel) (by rfl) fun t' loads' => ?_
  have path : Library.splitReference "m:t" = ("m", "t") := by decide +kernel
  rw [Library.tree, path]
  cases loads.symm.trans loads'
  rfl

end

/-- A token that cannot be looked up is listed as a token that is written down. -/
theorem listing_hides_token :
    let _ : Platform := .usual
    ∃ t t' code acts acts',
    let library := fun t : SchemaTree => [("m", [("t", Member.tree t)])]
    RunM.Adds (runLine (library t) false ["--json", "endpoints", "m:t"]) (visit [] []) (.ok code)
      acts ∧
    RunM.Adds (runLine (library t') false ["--json", "endpoints", "m:t"])
      (visit [("TOKEN", "abc")] []) (.ok code) acts' ∧
    acts.filter Act.isOutput = acts'.filter Act.isOutput := by
  intro _
  have line : Line.read ["--json", "endpoints", "m:t"] = .command asJson (.endpoints "m:t") := by
    decide +kernel
  have same : Indistinct (visit [] []).world (visit [("TOKEN", "abc")] []).world :=
    ⟨rfl, by decide, rfl⟩
  obtain ⟨t, loads, -⟩ :
      ∃ t, @Document.tree .usual (guarded (.dict [(.text "$env", .text "TOKEN")])) = .ok t ∧
        Assoc.keys t.root.children = ["notes"] := Outcome.exists_of_toOption_map (by decide +kernel)
  obtain ⟨t', loads', -⟩ : ∃ t, @Document.tree .usual (guarded (.text "abc")) = .ok t ∧
      Assoc.keys t.root.children = ["notes"] := Outcome.exists_of_toOption_map (by decide +kernel)
  have outline : Document.outline (guarded (.dict [(.text "$env", .text "TOKEN")])) =
      Document.outline (guarded (.text "abc")) := by
    simp [guarded, Document.outline, Document.outlineEntries, Document.outlineAttributes]
  exact ⟨t, t', listing_hides _ _ false line line same (names_member _ loads)
    (names_member _ loads') loads loads' outline⟩

end Cli

end RouteSchema
