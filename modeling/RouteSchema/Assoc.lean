/-!
# Ordered mappings

Association lists in insertion order. Writing to a key that is present keeps the position and the
spelling of the key and replaces its value; a new key goes to the end.

* `get?_insert` is the law of look-up after a write.
* `keys_insert` says where a write leaves the keys.
-/

namespace RouteSchema

/-- A mapping as the list of its entries in insertion order. -/
abbrev Assoc (κ α : Type) := List (κ × α)

namespace Assoc

variable {κ α : Type}

/-- The keys in insertion order. -/
def keys (m : Assoc κ α) : List κ := m.map Prod.fst

/-- The values in insertion order of their keys. -/
def values (m : Assoc κ α) : List α := m.map Prod.snd

/-- The value of a key. -/
def get? [BEq κ] (m : Assoc κ α) (k : κ) : Option α :=
  match m with
  | [] => none
  | (k', v) :: rest => if k' == k then some v else get? rest k

/-- Whether a key is present. -/
def contains [BEq κ] (m : Assoc κ α) (k : κ) : Bool := m.any fun (k', _) => k' == k

/-- Writes a value to a key. -/
def insert [BEq κ] (m : Assoc κ α) (k : κ) (v : α) : Assoc κ α :=
  match m with
  | [] => [(k, v)]
  | (k', v') :: rest => if k' == k then (k', v) :: rest else (k', v') :: insert rest k v

/-- Removes a key. -/
def erase [BEq κ] (m : Assoc κ α) (k : κ) : Assoc κ α := m.filter fun (k', _) => !(k' == k)

/-- Writes entries in order. -/
def overlay [BEq κ] (m entries : Assoc κ α) : Assoc κ α :=
  entries.foldl (fun m (k, v) => insert m k v) m

/-- The mapping that a list of entries writes, in order, into the empty one. -/
def ofList [BEq κ] (entries : List (κ × α)) : Assoc κ α := overlay [] entries

@[simp] theorem get?_nil [BEq κ] (k : κ) : get? ([] : Assoc κ α) k = none := rfl

@[simp] theorem overlay_nil [BEq κ] (m : Assoc κ α) : overlay m [] = m := rfl

@[simp] theorem overlay_cons [BEq κ] (m : Assoc κ α) (e : κ × α) (rest : Assoc κ α) :
    overlay m (e :: rest) = overlay (insert m e.1 e.2) rest := rfl

theorem get?_insert [BEq κ] [LawfulBEq κ] (m : Assoc κ α) (k k' : κ) (v : α) :
    get? (insert m k v) k' = if k == k' then some v else get? m k' := by
  induction m with
  | nil => simp [insert, get?]
  | cons e rest ih =>
    obtain ⟨k₀, v₀⟩ := e
    by_cases h : k₀ = k
    · subst h
      by_cases h' : k₀ == k' <;> simp [insert, get?, h']
    · by_cases h₀ : k₀ = k'
      · subst h₀
        simp [insert, get?, h, Ne.symm h]
      · simpa [insert, get?, h, h₀] using ih

theorem keys_insert [BEq κ] (m : Assoc κ α) (k : κ) (v : α) :
    keys (insert m k v) = if contains m k then keys m else keys m ++ [k] := by
  induction m with
  | nil => simp [insert, keys, contains]
  | cons e rest ih =>
    obtain ⟨k₀, v₀⟩ := e
    by_cases h : k₀ == k
    · simp [insert, keys, contains, h]
    · have step : keys (insert ((k₀, v₀) :: rest) k v) = k₀ :: keys (insert rest k v) := by
        simp [insert, h, keys]
      have same : contains ((k₀, v₀) :: rest) k = contains rest k := by simp [contains, h]
      rw [step, same, ih]
      split <;> simp [keys]

theorem contains_iff_mem_keys [BEq κ] [LawfulBEq κ] {m : Assoc κ α} {k : κ} :
    contains m k = true ↔ k ∈ keys m := by
  simp [contains, keys, List.any_eq_true]

theorem get?_overlay [BEq κ] [LawfulBEq κ] (m es : Assoc κ α) (k : κ) :
    get? (overlay m es) k = ((es.reverse.find? (·.1 == k)).map Prod.snd).or (get? m k) := by
  induction es generalizing m with
  | nil => simp
  | cons e rest ih =>
    rw [overlay_cons, ih, get?_insert, List.reverse_cons, List.find?_append]
    cases rest.reverse.find? (·.1 == k) with
    | some found => simp
    | none => by_cases h : e.1 == k <;> simp [h]

theorem contains_insert [BEq κ] [LawfulBEq κ] (m : Assoc κ α) (k k' : κ) (v : α) :
    contains (insert m k v) k' = (contains m k' || k' == k) := by
  rw [Bool.eq_iff_iff, Bool.or_eq_true, beq_iff_eq, contains_iff_mem_keys, keys_insert]
  by_cases h : contains m k
  · rw [if_pos h, contains_iff_mem_keys]
    exact ⟨.inl, fun hk => hk.elim id fun e => e ▸ contains_iff_mem_keys.1 h⟩
  · rw [if_neg h, contains_iff_mem_keys, List.mem_append, List.mem_singleton]

theorem keys_overlay [BEq κ] [LawfulBEq κ] (m es : Assoc κ α) :
    keys (overlay m es) = keys m ++ ((keys es).filter (!contains m ·)).eraseDups := by
  induction es generalizing m with
  | nil => simp [keys]
  | cons e rest ih =>
    have split : keys (e :: rest) = e.1 :: keys rest := rfl
    rw [overlay_cons, ih, keys_insert, split, List.filter_cons]
    simp only [contains_insert]
    by_cases h : contains m e.1
    · have known : ∀ k, (contains m k || k == e.1) = contains m k := fun k => by
        by_cases hk : k = e.1 <;> simp [hk, h]
      simp [h, known]
    · have fresh : ∀ k, (!(contains m k || k == e.1)) = (!k == e.1 && !contains m k) := fun k => by
        rw [Bool.not_or, Bool.and_comm]
      simp [h, fresh, List.eraseDups_cons, List.filter_filter]

theorem insert_of_not_contains [BEq κ] {m : Assoc κ α} {k : κ} (h : contains m k = false) (v : α) :
    insert m k v = m ++ [(k, v)] := by
  induction m with
  | nil => rfl
  | cons e rest ih =>
    obtain ⟨other, rest_free⟩ : (e.1 == k) = false ∧ contains rest k = false := by
      simpa [contains] using h
    simp [insert, other, ih rest_free]

theorem mem_insert [BEq κ] [LawfulBEq κ] {m : Assoc κ α} {k : κ} {v : α} {e : κ × α}
    (h : e ∈ insert m k v) : e ∈ m ∨ e = (k, v) := by
  induction m with
  | nil => exact .inr (List.mem_singleton.1 h)
  | cons e₀ rest ih =>
    rw [insert] at h
    split at h
    · rename_i same
      rcases List.mem_cons.1 h with rfl | h
      · exact .inr (Prod.ext (beq_iff_eq.1 same) rfl)
      · exact .inl (List.mem_cons_of_mem _ h)
    · rcases List.mem_cons.1 h with rfl | h
      · exact .inl List.mem_cons_self
      · exact (ih h).imp_left (List.mem_cons_of_mem _)

theorem mem_overlay [BEq κ] [LawfulBEq κ] {m es : Assoc κ α} {e : κ × α}
    (h : e ∈ overlay m es) : e ∈ m ∨ e ∈ es := by
  induction es generalizing m with
  | nil => exact .inl h
  | cons e₀ rest ih =>
    rcases ih h with h | h
    · exact (mem_insert h).imp_right fun same => by simp [same]
    · exact .inr (List.mem_cons_of_mem _ h)

/-- Writing entries makes no others. -/
theorem mem_ofList [BEq κ] [LawfulBEq κ] {es : List (κ × α)} {e : κ × α} (h : e ∈ ofList es) :
    e ∈ es :=
  (mem_overlay h).resolve_left List.not_mem_nil

/-- What holds of keys and what holds of values is kept by writing more of them. -/
theorem forall_insert [BEq κ] {P : κ → Prop} {Q : α → Prop} {m : Assoc κ α} {k : κ} {v : α}
    (h : ∀ e ∈ m, P e.1 ∧ Q e.2) (hk : P k) (hv : Q v) : ∀ e ∈ insert m k v, P e.1 ∧ Q e.2 := by
  induction m with
  | nil => exact fun e he => List.mem_singleton.1 he ▸ ⟨hk, hv⟩
  | cons e₀ rest ih =>
    obtain ⟨first, others⟩ := List.forall_mem_cons.1 h
    rw [insert]
    split
    · exact List.forall_mem_cons.2 ⟨⟨first.1, hv⟩, others⟩
    · exact List.forall_mem_cons.2 ⟨first, ih others⟩

theorem forall_overlay [BEq κ] {P : κ → Prop} {Q : α → Prop} {m es : Assoc κ α}
    (h : ∀ e ∈ m, P e.1 ∧ Q e.2) (hes : ∀ e ∈ es, P e.1 ∧ Q e.2) :
    ∀ e ∈ overlay m es, P e.1 ∧ Q e.2 := by
  induction es generalizing m with
  | nil => exact h
  | cons e₀ rest ih =>
    obtain ⟨first, others⟩ := List.forall_mem_cons.1 hes
    exact ih (forall_insert h first.1 first.2) others

/-- Among entries with the same key, the last one is kept. -/
theorem get?_ofList [BEq κ] [LawfulBEq κ] (es : List (κ × α)) (k : κ) :
    get? (ofList es) k = (es.reverse.find? (·.1 == k)).map Prod.snd := by
  rw [ofList, get?_overlay, get?_nil, Option.or_none]

/-- A key stands where the first entry with it stands. -/
theorem keys_ofList [BEq κ] [LawfulBEq κ] (es : List (κ × α)) :
    keys (ofList es) = (keys es).eraseDups := by
  have all : (keys es).filter (!contains ([] : Assoc κ α) ·) = keys es :=
    List.filter_eq_self.2 fun _ _ => rfl
  rw [ofList, keys_overlay, all]
  rfl

/-- Writing to mappings keeps their keys different from each other. -/
theorem nodup_keys_overlay [BEq κ] [LawfulBEq κ] {m : Assoc κ α} (h : (keys m).Nodup)
    (es : Assoc κ α) : (keys (overlay m es)).Nodup := by
  induction es generalizing m with
  | nil => exact h
  | cons e rest ih =>
    rw [overlay_cons]
    refine ih ?_
    rw [keys_insert]
    split
    · exact h
    · rename_i fresh
      rw [contains_iff_mem_keys] at fresh
      refine List.nodup_append.2 ⟨h, List.pairwise_singleton _ _, fun k hk k' hk' same => ?_⟩
      rw [List.mem_singleton] at hk'
      exact fresh (hk' ▸ same ▸ hk)

theorem nodup_keys_ofList [BEq κ] [LawfulBEq κ] (es : List (κ × α)) : (keys (ofList es)).Nodup := by
  have none_yet : (keys ([] : Assoc κ α)).Nodup := List.Pairwise.nil
  exact nodup_keys_overlay none_yet es

/-- Entries whose keys are all different, and not there yet, are written to the end. -/
theorem overlay_of_nodup [BEq κ] [LawfulBEq κ] {m es : Assoc κ α} (h : (keys (m ++ es)).Nodup) :
    overlay m es = m ++ es := by
  induction es generalizing m with
  | nil => rw [overlay_nil, List.append_nil]
  | cons e rest ih =>
    have fresh : contains m e.1 = false := by
      rw [Bool.eq_false_iff, Ne, contains_iff_mem_keys]
      intro known
      rw [keys, List.map_append, List.nodup_append] at h
      exact h.2.2 _ known _ List.mem_cons_self rfl
    have all : m ++ e :: rest = m ++ [e] ++ rest := by rw [List.append_assoc, List.singleton_append]
    rw [overlay_cons, insert_of_not_contains fresh, all]
    exact ih (all ▸ h)

theorem get?_of_mem [BEq κ] [LawfulBEq κ] {m : Assoc κ α} (h : (keys m).Nodup) {k : κ} {v : α}
    (found : (k, v) ∈ m) : get? m k = some v := by
  induction m with
  | nil => cases found
  | cons e rest ih =>
    obtain ⟨distinct, rest_distinct⟩ := List.nodup_cons.1 h
    rcases List.mem_cons.1 found with rfl | found
    · simp [get?]
    · have other : e.1 ≠ k := fun same => distinct (same ▸ List.mem_map_of_mem found)
      rw [get?, if_neg (mt beq_iff_eq.1 other)]
      exact ih rest_distinct found

theorem mem_of_get? [BEq κ] [LawfulBEq κ] {m : Assoc κ α} {k : κ} {v : α}
    (h : get? m k = some v) : (k, v) ∈ m := by
  induction m with
  | nil => cases h
  | cons e rest ih =>
    rw [get?] at h
    split at h
    · rename_i same
      cases h
      exact List.mem_cons.2 (.inl (Prod.ext (beq_iff_eq.1 same).symm rfl))
    · exact List.mem_cons_of_mem e (ih h)

/-- An entry is kept exactly if no later one has its key. -/
theorem mem_ofList_iff [BEq κ] [LawfulBEq κ] {es : List (κ × α)} {k : κ} {v : α} :
    (k, v) ∈ ofList es ↔ ∃ before after, es = before ++ (k, v) :: after ∧ k ∉ keys after := by
  have found : (k, v) ∈ ofList es ↔ get? (ofList es) k = some v :=
    ⟨get?_of_mem (nodup_keys_ofList es), mem_of_get?⟩
  rw [found, get?_ofList, Option.map_eq_some_iff]
  constructor
  · rintro ⟨⟨k', v'⟩, last, rfl⟩
    obtain ⟨same, later, earlier, split, others⟩ := List.find?_eq_some_iff_append.1 last
    obtain rfl : k' = k := beq_iff_eq.1 same
    refine ⟨earlier.reverse, later.reverse, ?_, fun known => ?_⟩
    · rw [← List.reverse_reverse es, split]
      simp
    · obtain ⟨e, he, same⟩ := List.mem_map.1 known
      have other := others e (List.mem_reverse.1 he)
      simp [same] at other
  · rintro ⟨before, after, rfl, last⟩
    have others : ∀ e ∈ after.reverse, (!e.1 == k) = true := fun e he => by
      have other : e.1 ≠ k := fun same =>
        last (same ▸ List.mem_map_of_mem (List.mem_reverse.1 he))
      simp [other]
    have split : (before ++ (k, v) :: after).reverse =
        after.reverse ++ (k, v) :: before.reverse := by
      simp
    exact ⟨(k, v), List.find?_eq_some_iff_append.2 ⟨BEq.rfl, _, _, split, others⟩, rfl⟩

/-- Mappings with the same keys in the same order are the same if one has the entries of the
other. -/
theorem eq_of_keys {m m' : Assoc κ α} (same : keys m = keys m') (distinct : (keys m').Nodup)
    (h : ∀ e ∈ m, e ∈ m') : m = m' := by
  induction m generalizing m' with
  | nil => exact (List.map_eq_nil_iff.1 same.symm).symm
  | cons e rest ih =>
    cases m' with
    | nil => cases same
    | cons e' rest' =>
      obtain ⟨first, others⟩ : e.1 = e'.1 ∧ keys rest = keys rest' := List.cons_eq_cons.1 same
      obtain ⟨fresh, rest_distinct⟩ := List.nodup_cons.1 distinct
      obtain rfl : e = e' := (List.mem_cons.1 (h e List.mem_cons_self)).resolve_right fun later =>
        fresh (first ▸ List.mem_map_of_mem later)
      have kept : ∀ e₀ ∈ rest, e₀ ∈ rest' := by
        intro e₀ mem
        refine (List.mem_cons.1 (h e₀ (List.mem_cons_of_mem e mem))).resolve_left ?_
        rintro rfl
        have known : e₀.1 ∈ keys rest := List.mem_map_of_mem mem
        rw [others] at known
        exact fresh known
      rw [ih others rest_distinct kept]

theorem get?_eq_none_iff [BEq κ] [LawfulBEq κ] {m : Assoc κ α} {k : κ} :
    get? m k = none ↔ k ∉ keys m := by
  induction m with
  | nil => simp [keys]
  | cons e rest ih =>
    by_cases h : e.1 = k
    · simp [get?, keys, h]
    · have skip : get? (e :: rest) k = get? rest k := by simp [get?, h]
      rw [skip, ih]
      simp [keys, Ne.symm h]

/-! ## Mapping the values -/

section

variable {β : Type} [BEq κ] (f : α → β)

theorem get?_map (m : Assoc κ α) (k : κ) :
    get? (m.map fun e => (e.1, f e.2)) k = (get? m k).map f := by
  induction m with
  | nil => rfl
  | cons e rest ih =>
    rw [List.map_cons, get?, get?]
    split
    · rfl
    · exact ih

theorem contains_map (m : Assoc κ α) (k : κ) :
    contains (m.map fun e => (e.1, f e.2)) k = contains m k := List.any_map

theorem insert_map (m : Assoc κ α) (k : κ) (v : α) :
    insert (m.map fun e => (e.1, f e.2)) k (f v) = (insert m k v).map fun e => (e.1, f e.2) := by
  induction m with
  | nil => rfl
  | cons e rest ih =>
    rw [List.map_cons, insert, insert]
    split
    · rfl
    · rw [ih, List.map_cons]

theorem overlay_map (m es : Assoc κ α) :
    overlay (m.map fun e => (e.1, f e.2)) (es.map fun e => (e.1, f e.2)) =
      (overlay m es).map fun e => (e.1, f e.2) := by
  induction es generalizing m with
  | nil => rfl
  | cons e rest ih => rw [List.map_cons, overlay_cons, overlay_cons, insert_map, ih]

theorem ofList_map (es : Assoc κ α) :
    ofList (es.map fun e => (e.1, f e.2)) = (ofList es).map fun e => (e.1, f e.2) :=
  overlay_map f [] es

end

end Assoc

end RouteSchema
