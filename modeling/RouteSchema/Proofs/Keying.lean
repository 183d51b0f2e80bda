import RouteSchema.Failure

/-!
# Keys that equal only themselves

The keys of a dictionary are compared by equality of values, under which an integer equals a number
of another kind. A text equals only itself, and so does the null value. For such keys the laws of
look-up hold, whatever the other keys are.

* `Assoc.Exact` says that a key equals only itself, `Assoc.Distinct` that no two keys are equal, and
  `Assoc.under` are the entries under a key.
* `Assoc.Exact.under_overlay_of_mem`, `Assoc.Exact.under_overlay_of_free`: what is under a key after
  entries are written.
-/

namespace RouteSchema

namespace Assoc

variable {κ α : Type} [BEq κ]

/-- A key that equals itself and no other key. -/
structure Exact (k : κ) : Prop where
  left : ∀ x, (x == k) = true ↔ x = k
  right : ∀ x, (k == x) = true ↔ x = k

/-- No two keys are equal. -/
def Distinct (m : Assoc κ α) : Prop := (keys m).Pairwise fun a b => (a == b) = false

instance (m : Assoc κ α) : Decidable (Distinct m) := inferInstanceAs (Decidable (List.Pairwise _ _))

/-- The entries under a key. -/
def under (m : Assoc κ α) (k : κ) : Assoc κ α := m.filter fun e => e.1 == k

variable {m es : Assoc κ α} {k : κ} {v : α}

theorem get?_eq_head? (m : Assoc κ α) (k : κ) : get? m k = (under m k).head?.map Prod.snd := by
  induction m with
  | nil => rfl
  | cons e rest ih =>
    rw [get?, under, List.filter_cons]
    split
    · rfl
    · exact ih

theorem Distinct.filter (h : Distinct m) (p : κ × α → Bool) : Distinct (m.filter p) :=
  List.Pairwise.sublist (List.filter_sublist.map Prod.fst) h

namespace Exact

variable (key : Exact k)

include key

theorem ne_of_left {x : κ} (h : (x == k) = false) : x ≠ k := fun same => by
  rw [(key.left x).2 same] at h
  cases h

theorem ne_of_right {x : κ} (h : (k == x) = false) : x ≠ k := fun same => by
  rw [(key.right x).2 same] at h
  cases h

theorem under_cons_self (v : α) (rest : Assoc κ α) :
    under ((k, v) :: rest) k = (k, v) :: under rest k :=
  List.filter_cons_of_pos ((key.left k).2 rfl)

theorem under_cons_other {e : κ × α} (other : e.1 ≠ k) (rest : Assoc κ α) :
    under (e :: rest) k = under rest k :=
  List.filter_cons_of_neg (mt (key.left e.1).1 other)

theorem under_of_free (free : ∀ e ∈ m, e.1 ≠ k) : under m k = [] :=
  List.filter_eq_nil_iff.2 fun e he => mt (key.left e.1).1 (free e he)

/-- Where keys are distinct, a key that is present has one entry. -/
theorem under_of_mem (distinct : Distinct m) (found : (k, v) ∈ m) : under m k = [(k, v)] := by
  induction m with
  | nil => cases found
  | cons e rest ih =>
    obtain ⟨first, others⟩ := List.pairwise_cons.1 distinct
    rcases List.mem_cons.1 found with rfl | found
    · have free : ∀ e ∈ rest, e.1 ≠ k := fun e he =>
        key.ne_of_right (first e.1 (List.mem_map_of_mem he))
      rw [key.under_cons_self, key.under_of_free free]
    · have other : e.1 ≠ k := key.ne_of_left (first k (List.mem_map_of_mem (f := Prod.fst) found))
      rw [key.under_cons_other other, ih others found]

theorem mem_of_mem_under {e : κ × α} (h : e ∈ under m k) : e ∈ m ∧ e.1 = k := by
  obtain ⟨mem, same⟩ := List.mem_filter.1 h
  exact ⟨mem, (key.left e.1).1 same⟩

theorem length_under_le (distinct : Distinct m) : (under m k).length ≤ 1 := by
  cases present : under m k with
  | nil => exact Nat.zero_le 1
  | cons e rest =>
    obtain ⟨mem, rfl⟩ := key.mem_of_mem_under (present ▸ List.mem_cons_self)
    rw [← present, key.under_of_mem distinct mem]
    exact Nat.le_refl 1

theorem get?_eq_some_iff (distinct : Distinct m) : get? m k = some v ↔ (k, v) ∈ m := by
  rw [get?_eq_head?]
  constructor
  · intro h
    obtain ⟨e, head, rfl⟩ := Option.map_eq_some_iff.1 h
    obtain ⟨mem, same⟩ := key.mem_of_mem_under (List.mem_of_head? head)
    exact same ▸ mem
  · intro found
    rw [key.under_of_mem distinct found]
    rfl

/-! ## Writing -/

theorem under_insert_other {k' : κ} (other : k' ≠ k) (m : Assoc κ α) (v : α) :
    under (insert m k' v) k = under m k := by
  induction m with
  | nil => exact key.under_cons_other other []
  | cons e rest ih =>
    rw [insert]
    split
    · rename_i same
      have apart : e.1 ≠ k := by
        rintro rfl
        exact other ((key.right k').1 same)
      have apart' : ((e.1, v) : κ × α).1 ≠ k := apart
      rw [key.under_cons_other apart, key.under_cons_other apart']
    · rw [under, List.filter_cons, under, List.filter_cons]
      exact congrArg (fun others => if (e.1 == k) = true then e :: others else others) ih

theorem under_insert_self (few : (under m k).length ≤ 1) (v : α) :
    under (insert m k v) k = [(k, v)] := by
  induction m with
  | nil => exact key.under_cons_self v []
  | cons e rest ih =>
    by_cases same : e.1 = k
    · subst same
      have none : under rest e.1 = [] := by
        rw [key.under_cons_self e.2 rest, List.length_cons] at few
        exact List.eq_nil_of_length_eq_zero (by omega)
      rw [insert, if_pos ((key.left e.1).2 rfl), key.under_cons_self, none]
    · rw [key.under_cons_other same] at few
      rw [insert, if_neg (mt (key.left e.1).1 same), key.under_cons_other same, ih few]

theorem get?_insert_self (m : Assoc κ α) (v : α) : get? (insert m k v) k = some v := by
  induction m with
  | nil => rw [insert, get?, if_pos ((key.left k).2 rfl)]
  | cons e rest ih =>
    rw [insert]
    split
    · rename_i same
      rw [get?, if_pos same]
    · rename_i other
      rw [get?, if_neg other, ih]

theorem get?_insert_other {k' : κ} (other : k' ≠ k) (m : Assoc κ α) (v : α) :
    get? (insert m k' v) k = get? m k := by
  rw [get?_eq_head?, key.under_insert_other other, get?_eq_head?]

/-- Entries with other keys leave what is under a key. -/
theorem under_overlay_of_free (free : ∀ e ∈ es, e.1 ≠ k) (m : Assoc κ α) :
    under (overlay m es) k = under m k := by
  induction es generalizing m with
  | nil => rfl
  | cons e rest ih =>
    obtain ⟨other, others⟩ := List.forall_mem_cons.1 free
    rw [overlay_cons, ih others, key.under_insert_other other]

/-- An entry among others with distinct keys is the only one under its key. -/
theorem under_overlay_of_mem (distinct : Distinct es) (found : (k, v) ∈ es)
    (few : (under m k).length ≤ 1) : under (overlay m es) k = [(k, v)] := by
  induction es generalizing m with
  | nil => cases found
  | cons e rest ih =>
    obtain ⟨first, others⟩ := List.pairwise_cons.1 distinct
    rw [overlay_cons]
    rcases List.mem_cons.1 found with rfl | found
    · have free : ∀ e ∈ rest, e.1 ≠ k := fun e he =>
        key.ne_of_right (first e.1 (List.mem_map_of_mem he))
      rw [key.under_overlay_of_free free, key.under_insert_self few]
    · have other : e.1 ≠ k := key.ne_of_left (first k (List.mem_map_of_mem (f := Prod.fst) found))
      exact ih others found (key.under_insert_other other m e.2 ▸ few)

end Exact

end Assoc

/-! ## Names as keys -/

theorem Value.exact_text (s : String) : Assoc.Exact (Value.text s) where
  left v := ⟨eq_of_beq_text, fun same => by simp [same]⟩
  right v := by
    change same (.text s) v = true ↔ v = .text s
    cases v <;> simp [same, sameLeaf, number?]
    exact eq_comm

/-- Only the null value equals the null value. -/
theorem beq_null_iff {v : Value} : (v == .null) = true ↔ v = .null := by
  change Value.same v .null = true ↔ v = .null
  cases v <;> simp [Value.same, Value.sameLeaf, Value.number?]

theorem Value.exact_null : Assoc.Exact Value.null where
  left _ := beq_null_iff
  right v := by
    change same .null v = true ↔ v = .null
    cases v <;> simp [same, sameLeaf, number?]

/-- The name of a placeholder equals only itself. -/
theorem exact_nameValue (name : Option String) : Assoc.Exact (nameValue name) := by
  cases name with
  | none => exact Value.exact_null
  | some s => exact Value.exact_text s

theorem nameValue_injective : Function.Injective nameValue := by
  rintro (_ | s) (_ | t) same <;> cases same <;> rfl

end RouteSchema
