import RouteSchema.Document

/-!
# The nodes of documents

The nodes of a document are the document itself and what stands under the routes of a node. A
document is read from its nodes, each of them for itself.

* `Document.HasNode` tells the nodes of a document, and `Document.EveryNode` is a condition on all
  mappings among them.
* `Document.node_induction` follows the nodes down a document.
* `Document.nodeTexts` are the values in a node whose texts are asked for, and `Document.Worded`
  says that all of them have one.
-/

namespace RouteSchema.Document

/-- The nodes of a document: the document itself, and what stands under the routes of a node. -/
inductive HasNode : Value → Value → Prop
  | itself (v : Value) : HasNode v v
  | under {entries routes : Dict} {segment child v : Value}
      (own : Dict.getText? entries "routes" = some (.dict routes)) (h : (segment, child) ∈ routes)
      (rest : HasNode child v) : HasNode (.dict entries) v

/-- What holds of all values but mappings, and of a mapping when it holds of all that stands under
its routes, holds of every value. -/
theorem node_induction {P : Value → Prop} (other : ∀ v, v.dict? = none → P v)
    (mapping : ∀ entries,
      (∀ routes, part? entries "routes" = some routes → ∀ e ∈ routes, P e.2) → P (.dict entries)) :
    ∀ v, P v
  | .dict entries =>
    mapping entries fun _ _under e _member => node_induction other mapping e.2
  | .null | .bool _ | .int _ | .float _ | .text _ | .bytes _ | .date _ | .moment _ | .list _
  | .tuple _ | .set _ | .handle _ => other _ rfl
termination_by v => sizeOf v
decreasing_by
  have inside := List.sizeOf_lt_of_mem _member
  have part := sizeOf_lt_of_part? _under
  have value : sizeOf e.2 < sizeOf e := by
    obtain ⟨segment, v⟩ := e
    simp only [Prod.mk.sizeOf_spec]
    omega
  omega

/-! ## Parts of nodes -/

theorem part?_of_dict {entries part : Dict} {key : String}
    (h : Dict.getText? entries key = some (.dict part)) : part? entries key = some part := by
  rw [part?, h]
  cases part <;> rfl

/-- The entries of a part are those of the mapping under its key. -/
theorem mem_part_iff {entries part : Dict} {key : String} (h : part? entries key = some part)
    {e : Value × Value} :
    e ∈ part ↔ ∃ es, Dict.getText? entries key = some (.dict es) ∧ e ∈ es := by
  rw [part?] at h
  cases found : Dict.getText? entries key with
  | none =>
    rw [found] at h
    cases h
    simp
  | some v =>
    rw [found] at h
    cases v with
    | dict es =>
      cases es with
      | nil =>
        cases h
        simp
      | cons first rest =>
        cases h
        simp
    | _ =>
      dsimp only at h
      split at h
      · cases h
      · cases h
        simp

/-! ## Conditions on nodes -/

/-- The nodes of a node are the node itself and those under its routes. -/
theorem hasNode_dict_iff {entries : Dict} {w : Value} : HasNode (.dict entries) w ↔
    w = .dict entries ∨
      ∃ routes, part? entries "routes" = some routes ∧ ∃ e ∈ routes, HasNode e.2 w := by
  constructor
  · rintro (_ | ⟨own, h, rest⟩)
    · exact .inl rfl
    · exact .inr ⟨_, part?_of_dict own, _, h, rest⟩
  · rintro (rfl | ⟨routes, under, e, he, rest⟩)
    · exact .itself _
    · obtain ⟨es, own, he⟩ := (mem_part_iff under).1 he
      exact .under own he rest

/-- Every mapping among the nodes of a document satisfies a condition. -/
def EveryNode (P : Dict → Prop) (doc : Value) : Prop :=
  ∀ entries, HasNode doc (.dict entries) → P entries

theorem everyNode_dict_iff {P : Dict → Prop} {entries : Dict} : EveryNode P (.dict entries) ↔
    P entries ∧
      ∀ routes, part? entries "routes" = some routes → ∀ e ∈ routes, EveryNode P e.2 := by
  constructor
  · refine fun h => ⟨h entries (.itself _), fun routes under e he es inside => ?_⟩
    exact h es (hasNode_dict_iff.2 (.inr ⟨routes, under, e, he, inside⟩))
  · rintro ⟨own, below⟩ es inside
    rcases hasNode_dict_iff.1 inside with same | ⟨routes, under, e, he, inside⟩
    · cases same
      exact own
    · exact below routes under e he es inside

/-! ## Root addresses -/

/-- Removing a key leaves the values of the others. -/
theorem getText?_erase (entries : Dict) {key erased : String} (other : erased ≠ key) :
    Dict.getText? (Assoc.erase entries (.text erased)) key = Dict.getText? entries key := by
  induction entries with
  | nil => rfl
  | cons e rest ih =>
    obtain ⟨k, v⟩ := e
    cases removed : k == .text erased with
    | true =>
      obtain rfl := Value.eq_of_beq_text removed
      rw [Dict.getText?_cons, if_neg other, ← ih]
      simp [Assoc.erase]
    | false =>
      have kept : Assoc.erase ((k, v) :: rest) (.text erased) =
          (k, v) :: Assoc.erase rest (.text erased) := by
        simp [Assoc.erase, removed]
      rw [kept]
      exact congrArg (fun found => if k == .text key then some v else found) ih

/-- Without the root address, the parts of a document are the same. -/
theorem part?_erase_root (entries : Dict) {key : String} (other : "root" ≠ key) :
    part? (Assoc.erase entries (.text "root")) key = part? entries key := by
  rw [part?, getText?_erase entries other, ← part?]

/-- Below a document stands the same without its root address. -/
theorem EveryNode.erase_root {P : Dict → Prop} {entries : Dict} (h : EveryNode P (.dict entries))
    (own : P entries → P (Assoc.erase entries (.text "root"))) :
    EveryNode P (.dict (Assoc.erase entries (.text "root"))) := by
  obtain ⟨document, below⟩ := everyNode_dict_iff.1 h
  refine everyNode_dict_iff.2 ⟨own document, ?_⟩
  rwa [part?_erase_root entries (by decide)]

/-! ## Texts in nodes -/

/-- The values whose texts are asked for to find a source. -/
def sourceTexts : Value → List Value
  | .dict es =>
    match Dict.getText? es "$env", Dict.getText? es "$file" with
    | some name, _ => [name]
    | none, some path => [path]
    | none, none => []
  | _ => []

/-- The values whose texts are asked for to read an attribute. -/
def entryTexts (e : Value × Value) : List Value := e.1 :: sourceTexts e.2

/-- The values in a node whose texts are asked for: its keys, those in its attributes, and the keys
of its routes. -/
def nodeTexts (entries : Dict) : List Value :=
  Assoc.keys entries ++ ((part? entries "attributes").getD []).flatMap entryTexts ++
    Assoc.keys ((part? entries "routes").getD [])

section

variable {entries : Dict} {v : Value}

theorem mem_nodeTexts_iff : v ∈ nodeTexts entries ↔
    v ∈ Assoc.keys entries ∨
      (∃ declared, part? entries "attributes" = some declared ∧ ∃ e ∈ declared, v ∈ entryTexts e) ∨
      ∃ routes, part? entries "routes" = some routes ∧ v ∈ Assoc.keys routes := by
  rw [nodeTexts, List.mem_append, List.mem_append, List.mem_flatMap, or_assoc]
  refine or_congr_right (or_congr ?_ ?_)
  · cases part? entries "attributes" <;> simp
  · cases part? entries "routes" <;> simp [Assoc.keys]

/-- What is asked for without the root address is asked for with it. -/
theorem mem_nodeTexts_of_erase_root
    (h : v ∈ nodeTexts (Assoc.erase entries (.text "root"))) : v ∈ nodeTexts entries := by
  rw [mem_nodeTexts_iff, part?_erase_root entries (by decide),
    part?_erase_root entries (by decide)] at h
  refine mem_nodeTexts_iff.2 (h.imp_left fun key => ?_)
  obtain ⟨e, he, rfl⟩ := List.mem_map.1 key
  exact List.mem_map_of_mem ((List.mem_filter.1 he).1)

end

/-- Every value in a document whose text is asked for has one. -/
def Worded [Platform] (doc : Value) : Prop :=
  EveryNode (fun entries => ∀ v ∈ nodeTexts entries, v.HasText) doc

theorem Worded.erase_root [Platform] {entries : Dict} (h : Worded (.dict entries)) :
    Worded (.dict (Assoc.erase entries (.text "root"))) :=
  EveryNode.erase_root h fun own v asked => own v (mem_nodeTexts_of_erase_root asked)

end RouteSchema.Document
