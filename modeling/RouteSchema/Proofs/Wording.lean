import RouteSchema.Proofs.Descending
import RouteSchema.Proofs.Sequencing

/-!
# Values without a text

A text is asked for wherever a value becomes part of a name, a place or an address. A value that has
none ends the work with a failure of its own.

* `Failure.IsWordless`: a failure is that of a value without a text.
* `Document.fails_tree`: reading a document fails with a fault of its form, or with such a failure.
-/

namespace RouteSchema

/-! ## Texts of values -/

variable [Platform]

/-- The failure of a value that has no text. -/
def Failure.IsWordless (f : Failure) : Prop := ∃ v : Value, v.asText = .error f

theorem Failure.IsWordless.exitCode? {f : Failure} (h : f.IsWordless) : f.exitCode? = none := by
  obtain ⟨v, fails⟩ := h
  rcases (Value.asText_eq_error fails).2 with rfl | rfl <;> rfl

/-- An integer of more digits than the limit has no text. -/
theorem Value.asText_int_of_le {i : Int} (h : Nat.pow 10 Value.digitLimit ≤ i.natAbs) :
    (Value.int i).asText = .error (.wrongValue Value.tooManyDigits) := by
  have long : (Value.int i).printable = false := by
    rw [printable, Bool.eq_false_iff, Ne, isShort_iff]
    exact Nat.not_lt.2 h
  rw [asText, long]
  rfl

/-- The least integer without a text. -/
def Value.long : Value := .int (Nat.pow 10 digitLimit)

theorem Value.asText_long : long.asText = .error (.wrongValue tooManyDigits) := by
  refine asText_int_of_le ?_
  -- the limit is kept from being computed with
  generalize digitLimit = n
  exact Nat.le_of_eq (Int.natAbs_natCast _).symm

/-- The texts of a list are the texts of its values, each of which must have one. -/
theorem Value.mapM_asText_eq_ok_iff {vs : List Value} {texts : List String} :
    vs.mapM Value.asText = .ok texts ↔ (∀ v ∈ vs, v.HasText) ∧ vs.map Value.display = texts :=
  Outcome.mapM_eq_ok_iff_of fun _ _ => Value.asText_eq_ok

/-! ## Failures of documents -/

namespace Document

/-- How reading a document fails: with a fault of its form, or with a value in it that has no
text. -/
inductive Fails (doc : Value) : Failure → Prop
  | malformed (fault : AuthoringFault) : Fails doc (.authoring fault)
  | wordless {entries : Dict} {v : Value} {f : Failure} (node : HasNode doc (.dict entries))
      (asked : v ∈ nodeTexts entries) (h : v.asText = .error f) : Fails doc f

theorem Fails.uncoded {doc : Value} {f : Failure} (h : Fails doc f) :
    (∃ fault, f = .authoring fault) ∨ f.exitCode? = none := by
  cases h with
  | malformed fault => exact .inl ⟨fault, rfl⟩
  | wordless _ _ h => exact .inr (Failure.IsWordless.exitCode? ⟨_, h⟩)

/-- A document all of whose texts exist fails with a fault of its form. -/
theorem Fails.malformed_of_worded {doc : Value} {f : Failure} (h : Fails doc f)
    (worded : Worded doc) : ∃ fault, f = .authoring fault := by
  cases h with
  | malformed fault => exact ⟨fault, rfl⟩
  | wordless node asked h =>
    cases (worded _ node _ asked).asText.symm.trans h

/-- What fails in a node, with a fault of its form or a value in it that has no text. -/
theorem Fails.here {entries : Dict} {texts : List Value} {f : Failure}
    (within : ∀ v ∈ texts, v ∈ nodeTexts entries)
    (h : (∃ fault, f = .authoring fault) ∨ ∃ v ∈ texts, v.asText = .error f) :
    Fails (.dict entries) f := by
  rcases h with ⟨fault, rfl⟩ | ⟨v, asked, fails⟩
  · exact .malformed fault
  · exact .wordless (.itself _) (within v asked) fails

theorem Fails.under {entries routes : Dict} {e : Value × Value} {f : Failure}
    (under : part? entries "routes" = some routes) (he : e ∈ routes) (h : Fails e.2 f) :
    Fails (.dict entries) f := by
  cases h with
  | malformed fault => exact .malformed fault
  | wordless node asked fails =>
    exact .wordless (hasNode_dict_iff.2 (.inr ⟨routes, under, e, he, node⟩)) asked fails

theorem Fails.of_erase_root {entries : Dict} {f : Failure}
    (h : Fails (.dict (Assoc.erase entries (.text "root"))) f) : Fails (.dict entries) f := by
  cases h with
  | malformed fault => exact .malformed fault
  | @wordless es v _ node asked fails =>
    rcases hasNode_dict_iff.1 node with same | ⟨routes, under, e, he, node⟩
    · cases same
      refine .wordless (.itself _) (mem_nodeTexts_of_erase_root asked) fails
    · rw [part?_erase_root entries (by decide)] at under
      exact .wordless (hasNode_dict_iff.2 (.inr ⟨routes, under, e, he, node⟩)) asked fails

theorem checkKeys_eq_error {entries : Dict} {allowed : List String} {location : String}
    {f : Failure} (h : checkKeys entries allowed location = .error f) :
    (∃ fault, f = .authoring fault) ∨ ∃ v ∈ Assoc.keys entries, v.asText = .error f := by
  rcases Outcome.bind_eq_error.1 h with h | ⟨unknown, -, h⟩
  · obtain ⟨v, mem, fails⟩ := Outcome.exists_of_mapM_eq_error h
    exact .inr ⟨v, (List.mem_filter.1 mem).1, fails⟩
  · split at h
    · cases h
    · cases h
      exact .inl ⟨_, rfl⟩

theorem source?_eq_error {key location : String} {v : Value} {f : Failure}
    (h : source? key location v = .error f) :
    (∃ fault, f = .authoring fault) ∨ ∃ w ∈ sourceTexts v, w.asText = .error f := by
  cases v with
  | dict es =>
    rw [source?] at h
    rw [sourceTexts]
    cases named : Dict.getText? es "$env" with
    | some name =>
      rw [named] at h
      rcases Outcome.bind_eq_error.1 h with h | ⟨_, _, ⟨⟩⟩
      exact .inr ⟨name, List.mem_singleton_self _, h⟩
    | none =>
      rw [named] at h
      cases filed : Dict.getText? es "$file" with
      | none =>
        rw [filed] at h
        cases h
      | some path =>
        rw [filed] at h
        rcases Outcome.bind_eq_error.1 h with h | ⟨text, -, h⟩
        · exact .inr ⟨path, List.mem_singleton_self _, h⟩
        · split at h
          · cases h
            exact .inl ⟨_, rfl⟩
          · cases h
  | _ => cases h

theorem declaration_eq_error {location : String} {e : Value × Value} {f : Failure}
    (h : declaration location e = .error f) :
    (∃ fault, f = .authoring fault) ∨ ∃ v ∈ entryTexts e, v.asText = .error f := by
  rcases Outcome.bind_eq_error.1 h with h | ⟨key, -, h⟩
  · exact .inr ⟨_, List.mem_cons_self, h⟩
  · rcases Outcome.bind_eq_error.1 h with h | ⟨_ | source, -, ⟨⟩⟩
    exact (source?_eq_error h).imp_right fun ⟨v, mem, fails⟩ =>
      ⟨v, List.mem_cons_of_mem _ mem, fails⟩

/-- Routes fail as one of their keys, or as one of the nodes below them. -/
theorem exists_of_nodes_eq_error {location : String} {routes : List (Value × Value)} {f : Failure}
    (h : nodes location routes = .error f) :
    ∃ e ∈ routes, e.1.asText = .error f ∨ ∃ below, node below e.2 = .error f := by
  induction routes with
  | nil =>
    rw [nodes] at h
    cases h
  | cons e rest ih =>
    obtain ⟨key, v⟩ := e
    rw [nodes] at h
    rcases Outcome.bind_eq_error.1 h with h | ⟨segment, -, h⟩
    · exact ⟨_, List.mem_cons_self, .inl h⟩
    rcases Outcome.bind_eq_error.1 h with h | ⟨child, -, h⟩
    · exact ⟨_, List.mem_cons_self, .inr ⟨_, h⟩⟩
    rcases Outcome.bind_eq_error.1 h with h | ⟨others, -, ⟨⟩⟩
    obtain ⟨e, he, fails⟩ := ih h
    exact ⟨e, List.mem_cons_of_mem _ he, fails⟩

theorem fails_node {location : String} {v : Value} {f : Failure}
    (h : node location v = .error f) : Fails v f := by
  induction v using node_induction generalizing location with
  | other v leaf =>
    rw [node.eq_def] at h
    cases v with
    | dict => cases leaf
    | _ =>
      cases h
      exact .malformed _
  | mapping entries ih =>
    rw [node.eq_def] at h
    rcases Outcome.bind_eq_error.1 h with h | ⟨-, -, h⟩
    · exact .here (fun v key => mem_nodeTexts_iff.2 (.inl key)) (checkKeys_eq_error h)
    split at h
    · rename_i declared own
      rcases Outcome.bind_eq_error.1 h with h | ⟨attributes, -, h⟩
      · obtain ⟨e, he, fails⟩ := Outcome.exists_of_mapM_eq_error h
        exact .here (fun v asked => mem_nodeTexts_iff.2 (.inr (.inl ⟨declared, own, e, he, asked⟩)))
          (declaration_eq_error fails)
      split at h
      · cases h
        exact .malformed _
      · rename_i routes under
        rcases Outcome.bind_eq_error.1 h with h | ⟨children, -, h⟩
        · obtain ⟨e, he, fails | ⟨below, fails⟩⟩ := exists_of_nodes_eq_error h
          · exact .here (fun v key => mem_nodeTexts_iff.2 (.inr (.inr ⟨routes, under, key⟩)))
              (.inr ⟨e.1, List.mem_map_of_mem he, fails⟩)
          · exact .under under he (ih routes under e he fails)
        dsimp only at h
        split_ifs at h
        · cases h
          exact .malformed _
        · cases h
          exact .malformed _
        · split at h <;> cases h
          exact .malformed _
    · cases h
      exact .malformed _

/-- Reading a document fails with a fault of its form, or with a value in it that has no text. -/
theorem fails_tree {doc : Value} {f : Failure} (h : tree doc = .error f) : Fails doc f := by
  cases doc with
  | dict entries =>
    rcases Outcome.bind_eq_error.1 h with h | ⟨-, -, h⟩
    · exact .here (fun v key => mem_nodeTexts_iff.2 (.inl key)) (checkKeys_eq_error h)
    dsimp only at h
    split at h
    · cases h
      exact .malformed _
    · rcases Outcome.bind_eq_error.1 h with h | ⟨_, _, ⟨⟩⟩
      exact (fails_node h).of_erase_root
  | _ =>
    cases h
    exact .malformed _

end Document

end RouteSchema
