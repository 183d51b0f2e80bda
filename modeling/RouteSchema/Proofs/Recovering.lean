import RouteSchema.Proofs.Keying
import RouteSchema.Proofs.Making

/-!
# Recovering what was read

A JSON text that is written for a value which has been read is read as that value again: integers and
floating-point numbers digit by digit, texts character by character, and containers with their items
and members in order.

* `Tidy` is what values have that are read: `tidy_of_read`.
* `Tidy.recovers`: what is written for a tidy value is read back, wherever it stands.
* `read_of_write`: so it is as a whole text, with a new line behind it.
* `length_of_read`: no text is read from itself.
-/

namespace RouteSchema.Json

/-! ## Tidy values -/

/-- Entries under names. -/
def named (entries : Assoc String Value) : Dict := entries.map fun e => (.text e.1, e.2)

/-- A value as a reader makes it: integers have few digits, numbers are those of the format, and
the names in a dictionary are all different. -/
inductive Tidy : Value → Prop
  | null : Tidy .null
  | bool (b : Bool) : Tidy (.bool b)
  | int {i : Int} (few : i.natAbs < 10 ^ Value.digitLimit) : Tidy (.int i)
  | float {x : Binary64} (canonical : x.Canonical) : Tidy (.float x)
  | text (s : String) : Tidy (.text s)
  | list {items : List Value} (h : ∀ v ∈ items, Tidy v) : Tidy (.list items)
  | dict {entries : Assoc String Value} (names : (Assoc.keys entries).Nodup)
      (values : ∀ e ∈ entries, Tidy e.2) : Tidy (.dict (named entries))

theorem exists_named {entries : Dict} (h : ∀ e ∈ entries, ∃ name, e.1 = .text name) :
    ∃ es, entries = named es := by
  induction entries with
  | nil => exact ⟨[], rfl⟩
  | cons e entries ih =>
    obtain ⟨name, same⟩ := h e List.mem_cons_self
    obtain ⟨es, rfl⟩ := ih fun e he => h e (List.mem_cons_of_mem _ he)
    exact ⟨(name, e.2) :: es, congrArg (· :: named es) (Prod.ext same rfl)⟩

theorem insert_named (m : Assoc String Value) (name : String) (v : Value) :
    Assoc.insert (named m) (.text name) v = named (Assoc.insert m name v) := by
  induction m with
  | nil => rfl
  | cons e rest ih =>
    have same : (Value.text e.1 == Value.text name) = (e.1 == name) := by
      rw [Bool.eq_iff_iff, (Value.exact_text name).left, beq_iff_eq, Value.text.injEq]
    show Assoc.insert ((.text e.1, e.2) :: named rest) _ v = _
    rw [Assoc.insert, Assoc.insert, same]
    split
    · rfl
    · rw [ih]
      rfl

theorem ofList_named (es : Assoc String Value) :
    Assoc.ofList (named es) = named (Assoc.ofList es) := by
  have overlay (m : Assoc String Value) : Assoc.overlay (named m) (named es) =
      named (Assoc.overlay m es) := by
    induction es generalizing m with
    | nil => rfl
    | cons e rest ih =>
      show Assoc.overlay (named m) ((.text e.1, e.2) :: named rest) = _
      rw [Assoc.overlay_cons, Assoc.overlay_cons, insert_named, ih]
  exact overlay []

theorem tidy_of_number {start pos : Nat} {negative : Bool} {cs : List Char} {r : Step Value}
    (h : number start negative pos cs = .ok r) : Tidy r.1 := by
  rcases exists_of_number h with ⟨i, few, made⟩ | ⟨_, _, _, made⟩
  · exact made ▸ .int few
  · exact made ▸ .float (Binary64.canonical_ofDecimal _ _ _)

theorem made_tidy : Made Tidy where
  null := .null
  bool := .bool
  text := .text
  nan := .float trivial
  infinite _ := .float trivial
  number := tidy_of_number
  list := .list
  dict h := by
    obtain ⟨es, rfl⟩ := exists_named fun e he => (h e he).1
    rw [ofList_named]
    refine .dict (Assoc.nodup_keys_ofList es) (fun e he => ?_)
    have := Assoc.mem_ofList he
    exact (h (.text e.1, e.2) (List.mem_map_of_mem this)).2

theorem tidy_of_read {s : String} {v : Value} (h : read s = .ok v) : Tidy v :=
  of_read made_tidy h

/-! ## Space -/

/-- A new line and the indentation behind it. -/
def gap (k : ℕ) : List Char := '\n' :: List.replicate k ' '

theorem toList_lineBreak (depth : ℕ) :
    (Layout.indented.lineBreak depth).toList = gap (2 * depth) := by
  simp [Layout.lineBreak, Layout.indented, gap]

theorem skipSpace_solid {c : Char} (solid : isSpace c = false) (pos : ℕ) (cs : List Char) :
    skipSpace pos (c :: cs) = (pos, c :: cs) := by
  rw [skipSpace, if_neg (by simp [solid])]

theorem skipSpace_gap {c : Char} (solid : isSpace c = false) (k pos : ℕ) (cs : List Char) :
    ∃ pos', skipSpace pos (gap k ++ c :: cs) = (pos', c :: cs) := by
  have spaces : ∀ pos, ∃ pos', skipSpace pos (List.replicate k ' ' ++ c :: cs) = (pos', c :: cs) := by
    induction k with
    | zero => exact fun pos => ⟨pos, skipSpace_solid solid pos cs⟩
    | succ k ih => exact fun pos => ih (pos + 1)
  exact spaces (pos + 1)

theorem stops_gap (k : ℕ) (cs : List Char) : Stops (gap k ++ cs) := by
  rintro c ⟨⟩
  decide

theorem stops_comma (cs : List Char) : Stops (',' :: cs) := by
  rintro c ⟨⟩
  decide

/-! ## Written values -/

/-- A character at which a value begins: no space, no closing bracket and no byte order mark. -/
def Opens (c : Char) : Prop := isSpace c = false ∧ c ≠ ']' ∧ c.toNat ≠ 0xfeff

/-- Nothing is read of what does not begin as a value. -/
theorem exists_opens {cs : List Char} {fuel pos : ℕ} {r : Step Value}
    (h : value (fuel + 1) pos cs = .ok r) : ∃ c rest, cs = c :: rest ∧ Opens c := by
  cases cs with
  | nil => cases h
  | cons c rest =>
    refine ⟨c, rest, rfl, ?_, ?_, ?_⟩
    · rw [Bool.eq_false_iff]
      intro space
      simp only [isSpace, Bool.or_eq_true, beq_iff_eq] at space
      rcases space with ((rfl | rfl) | rfl) | rfl
      all_goals cases h
    · rintro rfl
      cases h
    · intro mark
      obtain rfl : c = Char.ofNat 0xfeff := by rw [← mark, Char.ofNat_toNat]
      cases h

/-- Characters from which a reader gets a value, wherever they stand. -/
structure Recovers (cs : List Char) (v : Value) : Prop where
  opens : ∃ c rest, cs = c :: rest ∧ Opens c
  read : ∀ (fuel pos : ℕ) {rest : List Char}, cs.length ≤ fuel → Stops rest →
    ∃ pos', value fuel pos (cs ++ rest) = .ok (v, pos', rest)

theorem stops_nil : Stops [] := fun _ h => nomatch h

/-- Characters of which a value is read are some, so that the depth is never zero. -/
theorem Recovers.of_succ {cs : List Char} {v : Value}
    (read : ∀ (fuel pos : ℕ) {rest : List Char}, cs.length ≤ fuel + 1 → Stops rest →
      ∃ pos', value (fuel + 1) pos (cs ++ rest) = .ok (v, pos', rest)) : Recovers cs v := by
  obtain ⟨pos', alone⟩ := read cs.length 0 (Nat.le_succ _) stops_nil
  rw [List.append_nil] at alone
  have opens := exists_opens alone
  refine ⟨opens, ?_⟩
  intro fuel pos rest deep stops
  obtain ⟨c, cs, rfl, -⟩ := opens
  obtain ⟨fuel, rfl⟩ : ∃ k, fuel = k + 1 := ⟨fuel - 1, by simp at deep; omega⟩
  exact read fuel pos deep stops

section

variable {fuel pos k : ℕ} {rest : List Char} {acc : List Value} {s : String} {v : Value}

/-- An item before the end of a list. -/
theorem items_last (h : Recovers s.toList v) (deep : s.toList.length ≤ fuel) :
    ∃ pos', items (fuel + 1) pos (s.toList ++ (gap k ++ ']' :: rest)) acc =
      .ok (.list (acc.reverse ++ [v]), pos', rest) := by
  obtain ⟨pos', first⟩ := h.read fuel pos deep (stops_gap k (']' :: rest))
  obtain ⟨pos'', space⟩ := skipSpace_gap (c := ']') rfl k pos' rest
  refine ⟨pos'' + 1, ?_⟩
  rw [items, first]
  simp [bind, Except.bind, space]

/-- An item before another one. -/
theorem items_next (fuel pos k : ℕ) (acc : List Value) (h : Recovers s.toList v)
    (deep : s.toList.length ≤ fuel) {c : Char} (solid : isSpace c = false) :
    ∃ pos', items (fuel + 1) pos (s.toList ++ (',' :: (gap k ++ c :: rest))) acc =
      items fuel pos' (c :: rest) (v :: acc) := by
  obtain ⟨pos', first⟩ := h.read fuel pos deep (stops_comma (gap k ++ c :: rest))
  obtain ⟨pos'', space⟩ := skipSpace_gap solid k (pos' + 1) rest
  refine ⟨pos'', ?_⟩
  rw [items, first]
  simp [bind, Except.bind, skipSpace_solid (c := ',') rfl, space]

end

theorem joined_cons_cons (sep s s' : String) (ss : List String) :
    (Value.joined sep (s :: s' :: ss)).toList =
      s.toList ++ (sep.toList ++ (Value.joined sep (s' :: ss)).toList) := by
  rw [Value.joined, String.toList_append, String.toList_append, List.append_assoc]
  exact List.cons_ne_nil _ _

/-- What is joined begins as its first part. -/
theorem exists_joined (sep : String) {s : String} {c : Char} {cs : List Char}
    (h : s.toList = c :: cs) (ss : List String) :
    ∃ cs', (Value.joined sep (s :: ss)).toList = c :: cs' := by
  cases ss with
  | nil => exact ⟨cs, h⟩
  | cons s' ss => exact ⟨_, by rw [joined_cons_cons, h, List.cons_append]⟩

/-- The rest of a list from an item on. -/
theorem items_joined {ss : List String} {vs : List Value} {k : ℕ} (k' : ℕ) {sep : String}
    (hsep : sep.toList = ',' :: gap k) (some : ss ≠ [])
    (h : List.Forall₂ (fun s v => Recovers s.toList v) ss vs) (rest : List Char) :
    ∀ (fuel pos : ℕ) (acc : List Value), (Value.joined sep ss).toList.length < fuel →
      ∃ pos', items fuel pos ((Value.joined sep ss).toList ++ (gap k' ++ ']' :: rest)) acc =
        .ok (.list (acc.reverse ++ vs), pos', rest) := by
  induction h with
  | nil => exact absurd rfl some
  | @cons s v ss vs first others ih =>
    intro fuel pos acc deep
    obtain ⟨fuel, rfl⟩ : ∃ j, fuel = j + 1 := ⟨fuel - 1, by omega⟩
    cases others with
    | nil => exact items_last first (by simpa [Value.joined] using Nat.le_of_lt_succ deep)
    | @cons s' v' ss vs second others =>
      obtain ⟨c, cs, chars, solid, -⟩ := second.opens
      obtain ⟨cs', tail⟩ := exists_joined sep chars ss
      have ih := ih (List.cons_ne_nil _ _)
      rw [joined_cons_cons, hsep, tail] at deep ⊢
      rw [tail] at ih
      simp only [List.length_append, List.length_cons] at deep ih
      simp only [List.append_assoc, List.cons_append] at ih ⊢
      obtain ⟨pos', step⟩ := items_next fuel pos k acc first (by omega) solid
      obtain ⟨pos'', final⟩ := ih fuel pos' (v :: acc) (by omega)
      refine ⟨pos'', ?_⟩
      rw [step, final, List.reverse_cons, List.append_assoc, List.singleton_append]

/-- Characters from which a reader gets a member: a name, a colon and a value. -/
def Enters (cs : List Char) (e : String × Value) : Prop :=
  ∃ value, cs = (writtenText false e.1).toList ++ ':' :: ' ' :: value ∧ Recovers value e.2

section

variable {fuel pos k : ℕ} {rest : List Char} {acc : Dict} {s : String} {e : String × Value}

/-- A member is read up to what follows its value. -/
theorem members_entry (pos : ℕ) (h : Enters s.toList e) (deep : s.toList.length ≤ fuel)
    (stops : Stops rest) :
    ∃ cs pos₁ pos₂ pos₃ value₁ after, s.toList ++ rest = '"' :: cs ∧
      text pos (pos + 1) cs [] = .ok (e.1, pos₁, ':' :: after) ∧
      skipSpace (pos₁ + 1) after = (pos₂, value₁) ∧
      value fuel pos₂ value₁ = .ok (e.2, pos₃, rest) := by
  obtain ⟨chars, same, recovers⟩ := h
  obtain ⟨c, cs, hchars, solid, -⟩ := recovers.opens
  obtain ⟨cs₁, pos₁, quoted, name⟩ :=
    text_writtenText e.1 (':' :: ' ' :: (chars ++ rest)) pos (pos + 1)
  have short : chars.length ≤ fuel := by
    rw [same] at deep
    simp only [List.length_append, List.length_cons] at deep
    omega
  obtain ⟨pos₃, content⟩ := recovers.read fuel (pos₁ + 1 + 1) short stops
  refine ⟨cs₁, pos₁, pos₁ + 1 + 1, pos₃, chars ++ rest, ' ' :: (chars ++ rest), ?_, name, ?_, content⟩
  · rw [same, ← quoted]
    simp
  · rw [hchars, List.cons_append]
    exact skipSpace_solid solid _ _

/-- A member before the end of an object. -/
theorem members_last (h : Enters s.toList e) (deep : s.toList.length ≤ fuel) :
    ∃ pos', members (fuel + 1) pos (s.toList ++ (gap k ++ '\x7d' :: rest)) acc =
      .ok (.dict (Assoc.ofList (acc.reverse ++ [(.text e.1, e.2)])), pos', rest) := by
  obtain ⟨cs, pos₁, pos₂, pos₃, value₁, after, quoted, name, colon, content⟩ :=
    members_entry pos h deep (stops_gap k ('\x7d' :: rest))
  obtain ⟨pos', space⟩ := skipSpace_gap (c := '\x7d') rfl k pos₃ rest
  refine ⟨pos' + 1, ?_⟩
  rw [quoted, members, name]
  simp [bind, Except.bind, skipSpace_solid (c := ':') rfl, colon, content, space]

/-- A member before another one. -/
theorem members_next (fuel pos k : ℕ) (acc : Dict) (h : Enters s.toList e)
    (deep : s.toList.length ≤ fuel) {c : Char} (solid : isSpace c = false) :
    ∃ pos', members (fuel + 1) pos (s.toList ++ (',' :: (gap k ++ c :: rest))) acc =
      members fuel pos' (c :: rest) ((.text e.1, e.2) :: acc) := by
  obtain ⟨cs, pos₁, pos₂, pos₃, value₁, after, quoted, name, colon, content⟩ :=
    members_entry pos h deep (stops_comma (gap k ++ c :: rest))
  obtain ⟨pos', space⟩ := skipSpace_gap solid k (pos₃ + 1) rest
  refine ⟨pos', ?_⟩
  rw [quoted, members, name]
  simp [bind, Except.bind, skipSpace_solid (c := ':') rfl, skipSpace_solid (c := ',') rfl, colon,
    content, space]

end

/-- The rest of an object from a member on. -/
theorem members_joined {ss : List String} {es : Assoc String Value} {k : ℕ} (k' : ℕ)
    {sep : String} (hsep : sep.toList = ',' :: gap k) (some : ss ≠ [])
    (h : List.Forall₂ (fun s e => Enters s.toList e) ss es) (rest : List Char) :
    ∀ (fuel pos : ℕ) (acc : Dict), (Value.joined sep ss).toList.length < fuel →
      ∃ pos', members fuel pos ((Value.joined sep ss).toList ++ (gap k' ++ '\x7d' :: rest)) acc =
        .ok (.dict (Assoc.ofList (acc.reverse ++ named es)), pos', rest) := by
  induction h with
  | nil => exact absurd rfl some
  | @cons s e ss es first others ih =>
    intro fuel pos acc deep
    obtain ⟨fuel, rfl⟩ : ∃ j, fuel = j + 1 := ⟨fuel - 1, by omega⟩
    cases others with
    | nil => exact members_last first (by simpa [Value.joined] using Nat.le_of_lt_succ deep)
    | @cons s' e' ss es second others =>
      obtain ⟨value', chars, -⟩ := second
      rw [toList_writtenText, List.cons_append] at chars
      obtain ⟨cs', tail⟩ := exists_joined sep chars ss
      have ih := ih (List.cons_ne_nil _ _)
      rw [joined_cons_cons, hsep, tail] at deep ⊢
      rw [tail] at ih
      simp only [List.length_append, List.length_cons] at deep ih
      simp only [List.append_assoc, List.cons_append] at ih ⊢
      obtain ⟨pos', step⟩ := members_next fuel pos k acc first (c := '"') (by omega) rfl
      obtain ⟨pos'', final⟩ := ih fuel pos' ((.text e.1, e.2) :: acc) (by omega)
      refine ⟨pos'', ?_⟩
      rw [step, final, List.reverse_cons, List.append_assoc, List.singleton_append]
      rfl

/-! ## Containers -/

theorem toList_container (start stop : String) (depth : ℕ) {ss : List String} (some : ss ≠ []) :
    (Layout.indented.container start stop depth ss).toList =
      start.toList ++ (gap (2 * (depth + 1)) ++
        ((Value.joined ("," ++ Layout.indented.lineBreak (depth + 1)) ss).toList ++
          (gap (2 * depth) ++ stop.toList))) := by
  rw [Layout.container, if_neg (by simpa using some)]
  simp only [String.toList_append, toList_lineBreak, List.append_assoc]
  rfl

theorem toList_separator (depth : ℕ) :
    ("," ++ Layout.indented.lineBreak depth).toList = ',' :: gap (2 * depth) := by
  rw [String.toList_append, toList_lineBreak]
  rfl

theorem recovers_list {ss : List String} {vs : List Value} (depth : ℕ)
    (h : List.Forall₂ (fun s v => Recovers s.toList v) ss vs) :
    Recovers (Layout.indented.container "[" "]" depth ss).toList (.list vs) := by
  cases h with
  | nil =>
    have none : (Layout.indented.container "[" "]" depth []).toList = ['[', ']'] := by
      simp [Layout.container]
    rw [none]
    refine .of_succ fun fuel pos rest _ _ => ⟨pos + 1 + 1, ?_⟩
    show value (fuel + 1) pos ('[' :: ']' :: rest) = _
    rw [value, skipSpace_solid rfl]
    rfl
  | @cons s v ss vs first others =>
    obtain ⟨c, cs, chars, solid, other, -⟩ := first.opens
    obtain ⟨cs', begins⟩ := exists_joined ("," ++ Layout.indented.lineBreak (depth + 1)) chars ss
    have joined := items_joined (2 * depth) (toList_separator (depth + 1))
      (List.cons_ne_nil s ss) (.cons first others)
    rw [toList_container _ _ _ (List.cons_ne_nil s ss)]
    refine .of_succ fun fuel pos rest deep _ => ?_
    rw [begins] at deep joined ⊢
    obtain ⟨pos', space⟩ := skipSpace_gap solid (2 * (depth + 1)) (pos + 1)
      (cs' ++ (gap (2 * depth) ++ ']' :: rest))
    obtain ⟨pos'', final⟩ := joined rest fuel pos' [] (by
      simp only [List.length_append] at deep
      simp at deep ⊢
      omega)
    refine ⟨pos'', ?_⟩
    simp only [List.append_assoc, List.cons_append] at final ⊢
    show value (fuel + 1) pos ('[' :: (gap (2 * (depth + 1)) ++
      c :: (cs' ++ (gap (2 * depth) ++ ']' :: rest)))) = _
    rw [value, space]
    simpa [other] using final

theorem recovers_dict {ss : List String} {es : Assoc String Value} (depth : ℕ)
    (names : (Assoc.keys es).Nodup) (h : List.Forall₂ (fun s e => Enters s.toList e) ss es) :
    Recovers (Layout.indented.container "\x7b" "\x7d" depth ss).toList (.dict (named es)) := by
  cases h with
  | nil =>
    have none : (Layout.indented.container "\x7b" "\x7d" depth []).toList = ['\x7b', '\x7d'] := by
      simp [Layout.container]
    rw [none]
    refine .of_succ fun fuel pos rest _ _ => ⟨pos + 1 + 1, ?_⟩
    show value (fuel + 1) pos ('\x7b' :: '\x7d' :: rest) = _
    rw [value, skipSpace_solid rfl]
    rfl
  | @cons s e ss es first others =>
    have same : Assoc.ofList (named (e :: es)) = named (e :: es) := by
      rw [ofList_named, Assoc.ofList, Assoc.overlay_of_nodup (m := []) names]
      rfl
    have joined := members_joined (2 * depth) (toList_separator (depth + 1))
      (List.cons_ne_nil s ss) (.cons first others)
    obtain ⟨value₁, chars, -⟩ := first
    rw [toList_writtenText, List.cons_append] at chars
    obtain ⟨cs', begins⟩ := exists_joined ("," ++ Layout.indented.lineBreak (depth + 1)) chars ss
    rw [toList_container _ _ _ (List.cons_ne_nil s ss)]
    refine .of_succ fun fuel pos rest deep _ => ?_
    rw [begins] at deep joined ⊢
    obtain ⟨pos', space⟩ := skipSpace_gap (c := '"') rfl (2 * (depth + 1)) (pos + 1)
      (cs' ++ (gap (2 * depth) ++ '\x7d' :: rest))
    obtain ⟨pos'', final⟩ := joined rest fuel pos' [] (by
      simp only [List.length_append] at deep
      simp at deep ⊢
      omega)
    refine ⟨pos'', ?_⟩
    simp only [List.append_assoc, List.cons_append] at final ⊢
    show value (fuel + 1) pos ('\x7b' :: (gap (2 * (depth + 1)) ++
      '"' :: (cs' ++ (gap (2 * depth) ++ '\x7d' :: rest)))) = _
    rw [value, space]
    simpa [same] using final

/-! ## Whole texts -/

theorem forall₂_of_writeItems {items : List Value} {depth : ℕ}
    (h : ∀ v ∈ items, ∀ depth s, writeAt .indented depth v = .ok s → Recovers s.toList v)
    {ss : List String} (written : writeItems .indented depth items = .ok ss) :
    List.Forall₂ (fun s v => Recovers s.toList v) ss items := by
  induction items generalizing ss with
  | nil =>
    rw [writeItems] at written
    cases written
    exact .nil
  | cons v items ih =>
    rw [writeItems] at written
    obtain ⟨s, first, written⟩ := Outcome.bind_eq_ok.1 written
    obtain ⟨rest, others, written⟩ := Outcome.bind_eq_ok.1 written
    cases written
    exact .cons (h v List.mem_cons_self depth s first)
      (ih (fun v hv => h v (List.mem_cons_of_mem _ hv)) others)

theorem forall₂_of_writeMembers {es : Assoc String Value} {depth : ℕ}
    (h : ∀ e ∈ es, ∀ depth s, writeAt .indented depth e.2 = .ok s → Recovers s.toList e.2)
    {ss : List String} (written : writeMembers .indented depth (named es) = .ok ss) :
    List.Forall₂ (fun s e => Enters s.toList e) ss es := by
  induction es generalizing ss with
  | nil =>
    rw [named, List.map_nil, writeMembers] at written
    cases written
    exact .nil
  | cons e es ih =>
    rw [named, List.map_cons, writeMembers] at written
    obtain ⟨name, key, written⟩ := Outcome.bind_eq_ok.1 written
    cases key
    obtain ⟨s, first, written⟩ := Outcome.bind_eq_ok.1 written
    obtain ⟨rest, others, written⟩ := Outcome.bind_eq_ok.1 written
    cases written
    refine .cons ⟨s.toList, ?_, h e List.mem_cons_self depth s first⟩
      (ih (fun e he => h e (List.mem_cons_of_mem _ he)) others)
    simp [Layout.indented]

/-- What is written for a value that has been read is read as that value, wherever it stands. -/
theorem Tidy.recovers {v : Value} (tidy : Tidy v) :
    ∀ depth s, writeAt .indented depth v = .ok s → Recovers s.toList v := by
  induction tidy with
  | null =>
    intro depth s written
    cases written
    exact .of_succ fun fuel pos rest _ _ => ⟨pos + 4, rfl⟩
  | bool b =>
    intro depth s written
    cases written
    cases b with
    | false => exact .of_succ fun fuel pos rest _ _ => ⟨pos + 5, rfl⟩
    | true => exact .of_succ fun fuel pos rest _ _ => ⟨pos + 4, rfl⟩
  | int few =>
    intro depth s written
    rw [writeAt, writtenInt_eq (isShort_of_lt few)] at written
    cases written
    exact .of_succ fun fuel pos rest _ stops => value_toString few stops fuel pos
  | float canonical =>
    intro depth s written
    cases written
    exact .of_succ fun fuel pos rest _ stops => value_floatText canonical stops fuel pos
  | text s =>
    intro depth s written
    cases written
    exact .of_succ fun fuel pos rest _ _ => value_writtenText _ rest fuel pos
  | list _ ih =>
    intro depth s written
    obtain ⟨ss, items, rfl⟩ := Outcome.map_eq_ok.1 written
    exact recovers_list depth (forall₂_of_writeItems ih items)
  | dict names _ ih =>
    intro depth s written
    obtain ⟨ss, members, rfl⟩ := Outcome.map_eq_ok.1 written
    exact recovers_dict depth names (forall₂_of_writeMembers ih members)

/-- What is written for a value that has been read, with a new line behind it, is read as that
value. -/
theorem read_of_write {s text : String} {v : Value} (h : read s = .ok v)
    (written : write .indented v = .ok text) : read (text ++ "\n") = .ok v := by
  have recovers := (tidy_of_read h).recovers 0 text written
  obtain ⟨c, cs, chars, solid, -, noMark⟩ := recovers.opens
  have chars' : (text ++ "\n").toList = c :: (cs ++ ['\n']) := by
    rw [String.toList_append, chars]
    rfl
  have stops : Stops ['\n'] := stops_gap 0 []
  obtain ⟨pos, value⟩ := recovers.read (2 * (c :: (cs ++ ['\n'])).length + 2) 0
    (by rw [chars]; simp; omega) stops
  rw [chars, List.cons_append] at value
  rw [read, chars']
  simp only [beq_iff_eq, if_neg noMark]
  rw [readChars, skipSpace_solid solid]
  show (Json.value _ 0 (c :: (cs ++ ['\n'])) >>= _) = _
  rw [value]
  rfl

/-! ## Texts that are read -/

section

variable {fuel start pos : ℕ} {cs : List Char} {r : Step Value}

/-- A text takes at least one character for each of its own, and one for the quote behind it. -/
theorem length_of_text {acc : List Char} {r : Step String} (h : text start pos cs acc = .ok r) :
    r.1.length + 1 ≤ acc.length + cs.length := by
  fun_induction text start pos cs acc with
  | case1 | case3 | case4 | case5 | case8 | case10 | case11 => cases h
  | case2 pos cs acc =>
    cases h
    simp
  | case6 | case7 | case9 | case12 =>
    rename_i ih
    have shorter := ih h
    simp only [List.length_cons, List.length_drop] at shorter ⊢
    omega

theorem number_ne_text {negative : Bool} (h : number start negative pos cs = .ok r) (t : String) :
    r.1 ≠ .text t := by
  -- every branch that gives something gives an integer or a floating-point number
  unfold number at h
  dsimp only at h
  repeat' split at h
  all_goals cases h
  all_goals exact Value.noConfusion

theorem items_ne_text {acc : List Value} (h : items fuel pos cs acc = .ok r) (t : String) :
    r.1 ≠ .text t := by
  induction fuel generalizing pos cs acc with
  | zero => cases h
  | succ fuel ih =>
    obtain ⟨⟨v, pos', cs'⟩, -, h⟩ := Outcome.bind_eq_ok.1 h
    dsimp only at h
    split at h
    · cases h
      exact Value.noConfusion
    · exact ih h
    · cases h

theorem members_ne_text {acc : Dict} (h : members fuel pos cs acc = .ok r) (t : String) :
    r.1 ≠ .text t := by
  induction fuel generalizing pos cs acc with
  | zero => cases h
  | succ fuel ih =>
    unfold members at h
    split at h
    · obtain ⟨⟨name, pos', cs'⟩, -, h⟩ := Outcome.bind_eq_ok.1 h
      dsimp only at h
      split at h
      · obtain ⟨⟨v, pos', cs'⟩, -, h⟩ := Outcome.bind_eq_ok.1 h
        dsimp only at h
        split at h
        · cases h
          exact Value.noConfusion
        · exact ih h
        · cases h
      · cases h
    · cases h

theorem length_of_value {t : String} {after : ℕ × List Char}
    (h : value fuel pos cs = .ok (.text t, after)) : t.length + 2 ≤ cs.length := by
  cases fuel with
  | zero => cases h
  | succ fuel =>
    unfold value at h
    split at h
    · obtain ⟨⟨s, after⟩, read, h⟩ := Outcome.map_eq_ok.1 h
      cases h
      have := length_of_text read
      simp only [List.length_cons, List.length_nil] at this ⊢
      omega
    · dsimp only at h
      split at h
      · cases h
      · exact absurd rfl (members_ne_text h t)
    · dsimp only at h
      split at h
      · cases h
      · exact absurd rfl (items_ne_text h t)
    all_goals first
      | exact absurd rfl (number_ne_text h t)
      | cases h

theorem length_skipSpace (pos : ℕ) (cs : List Char) : (skipSpace pos cs).2.length ≤ cs.length := by
  fun_induction skipSpace pos cs with
  | case1 => exact le_rfl
  | case2 pos c cs space ih =>
    rw [List.length_cons]
    omega
  | case3 => exact le_rfl

/-- A text that is read has two characters less than what it is read from, its quotes. -/
theorem length_of_read {s t : String} (h : read s = .ok (.text t)) : t.length + 2 ≤ s.length := by
  have chars : readChars s.toList = .ok (.text t) := by
    unfold read at h
    split at h
    next c cs same =>
      split at h
      · cases h
      · rw [same, h]
    next same => rw [same, h]
  obtain ⟨⟨v, pos, rest⟩, first, closes⟩ := Outcome.bind_eq_ok.1 chars
  dsimp only at closes
  split at closes
  · cases closes
    exact (length_of_value first).trans (length_skipSpace 0 s.toList)
  · cases closes

end

end RouteSchema.Json
