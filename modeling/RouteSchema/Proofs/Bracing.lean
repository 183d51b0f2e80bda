import RouteSchema.Proofs.Searching

/-!
# Names in braces

What the usual pattern finds in a text, told without a search.

* `Occurs`: a name stands in braces after some characters of a text.
* `Expands` is the text with every name in braces replaced, read from left to right.
* `interpolate_braces`: filling a template under the usual pattern in these terms.
-/

namespace RouteSchema

/-- A character that is no brace. -/
def Plain (c : Char) : Prop := c ≠ '\x7b' ∧ c ≠ '\x7d'

/-- A text that is a name between braces: it is not empty and holds no brace. -/
def Braceable (w : List Char) : Prop := w ≠ [] ∧ ∀ c ∈ w, Plain c

instance : DecidablePred Plain := fun _ => inferInstanceAs (Decidable (_ ∧ _))

instance : DecidablePred Braceable := fun w =>
  have : Decidable (∀ c ∈ w, Plain c) := List.decidableBAll Plain w
  inferInstanceAs (Decidable (_ ∧ _))

/-- After some characters of a text, a name stands in braces. -/
def Occurs (cs before w : List Char) : Prop :=
  Braceable w ∧ ∃ after, cs = before ++ '\x7b' :: (w ++ '\x7d' :: after)

/-- The text with every name in braces replaced by the text of its value. What is written is not read
again, and a character with which no name in braces starts stays as it is. -/
inductive Expands [Platform] (params : Dict) : List Char → List Char → Prop
  | nil : Expands params [] []
  | keep {c : Char} {cs out : List Char} (free : ∀ w, ¬Occurs (c :: cs) [] w)
      (rest : Expands params cs out) : Expands params (c :: cs) (c :: out)
  | fill {w after out : List Char} {v : Value} (name : Braceable w)
      (value : Assoc.get? params (.text (String.ofList w)) = some v) (other : v ≠ .null)
      (worded : v.HasText) (rest : Expands params after out) :
      Expands params ('\x7b' :: (w ++ '\x7d' :: after)) (v.display.toList ++ out)

/-- The first name in braces that falls short of a condition. -/
def FirstShort (meets : Option String → Prop) (cs before w : List Char) : Prop :=
  Occurs cs before w ∧ ¬meets (some (String.ofList w)) ∧
    ∀ before' w', Occurs cs before' w' → before'.length < before.length →
      meets (some (String.ofList w'))

/-! ## Texts -/

/-- The plain characters in front of a brace are determined. -/
theorem append_brace_inj {w w' rest rest' : List Char} {x y : Char} (plain : ∀ c ∈ w, Plain c)
    (plain' : ∀ c ∈ w', Plain c) (brace : ¬Plain x) (brace' : ¬Plain y)
    (same : w ++ x :: rest = w' ++ y :: rest') : w = w' ∧ x = y ∧ rest = rest' := by
  induction w generalizing w' with
  | nil =>
    cases w' with
    | nil => exact ⟨rfl, List.cons_eq_cons.1 same⟩
    | cons c w' =>
      obtain ⟨rfl, -⟩ := List.cons_eq_cons.1 same
      exact absurd (plain' x List.mem_cons_self) brace
  | cons c w ih =>
    cases w' with
    | nil =>
      obtain ⟨rfl, -⟩ := List.cons_eq_cons.1 same
      exact absurd (plain c List.mem_cons_self) brace'
    | cons d w' =>
      obtain ⟨rfl, tails⟩ := List.cons_eq_cons.1 same
      obtain ⟨rfl, brackets⟩ :=
        ih (List.forall_mem_cons.1 plain).2 (List.forall_mem_cons.1 plain').2 tails
      exact ⟨rfl, brackets⟩

theorem not_plain_close : ¬Plain '\x7d' := fun plain => plain.2 rfl

/-- A text is plain up to its end or to a brace. -/
theorem exists_plain (cs : List Char) :
    ∃ w rest, cs = w ++ rest ∧ (∀ c ∈ w, Plain c) ∧ ∀ c ∈ rest.head?, ¬Plain c := by
  induction cs with
  | nil => exact ⟨[], [], rfl, List.forall_mem_nil _, nofun⟩
  | cons c cs ih =>
    by_cases plain : Plain c
    · obtain ⟨w, rest, rfl, others, stop⟩ := ih
      exact ⟨c :: w, rest, rfl, List.forall_mem_cons.2 ⟨plain, others⟩, stop⟩
    · refine ⟨[], c :: cs, rfl, List.forall_mem_nil _, ?_⟩
      rintro _ ⟨⟩
      exact plain

/-! ## The expression -/

section

open Regex

theorem holds_item (c d : Char) : (ClassItem.code d.toNat).holds {} c = true ↔ c = d := by
  simp [ClassItem.holds, Char.toNat_inj]

theorem holds_open (c : Char) : (CharTest.code 123 false).holds {} c = true ↔ c = '\x7b' := by
  rw [CharTest.holds, Bool.bne_false]
  exact holds_item c '\x7b'

theorem holds_close (c : Char) : (CharTest.code 125 false).holds {} c = true ↔ c = '\x7d' := by
  rw [CharTest.holds, Bool.bne_false]
  exact holds_item c '\x7d'

/-- What a name is made of. -/
def inner : CharTest := .oneOf [.code 123, .code 125] true

theorem holds_inner (c : Char) : inner.holds {} c = true ↔ Plain c := by
  have items : ([ClassItem.code 123, .code 125].any fun i => i.holds {} c) = true ↔
      c = '\x7b' ∨ c = '\x7d' := by
    rw [List.any_cons, List.any_cons, List.any_nil, Bool.or_false, Bool.or_eq_true]
    exact or_congr (holds_item c '\x7b') (holds_item c '\x7d')
  rw [inner, CharTest.holds, Bool.bne_true, Bool.not_eq_true', ← Bool.not_eq_true, items, not_or]
  rfl

section

variable {f : Flags} {test : CharTest} {b cs : List Char} {caps : Captures}
  {k : Cursor → Captures → Regex.Outcome}

theorem run_char {c : Char} (passes : test.holds f c = true) :
    run f (.char test) ⟨b, c :: cs⟩ caps k = k ⟨c :: b, cs⟩ caps :=
  if_pos passes

theorem run_char_of_refused (refused : ∀ c ∈ cs.head?, test.holds f c = false) :
    run f (.char test) ⟨b, cs⟩ caps k = none := by
  cases cs with
  | nil => rfl
  | cons c cs => exact if_neg (Bool.eq_false_iff.1 (refused c rfl))

/-- Greedy rounds of one character go on as long as it passes the test, if what follows fails before
that. -/
theorem repeated_char {w rest : List Char} (passes : ∀ c ∈ w, test.holds f c = true)
    (stop : ∀ c ∈ rest.head?, test.holds f c = false)
    (early : ∀ u c v, w = u ++ c :: v → k ⟨u.reverse ++ b, c :: (v ++ rest)⟩ caps = none)
    {least fuel count : Nat} {last : Option Nat} (enough : w.length < fuel) (done : least ≤ count)
    (fresh : ∀ n ∈ last, n < b.length) :
    repeated (fun s caps k => run f (.char test) s caps k) .greedy least none fuel count last
      ⟨b, w ++ rest⟩ caps k = k ⟨w.reverse ++ b, rest⟩ caps := by
  induction w generalizing b fuel count last with
  | nil =>
    obtain _ | fuel := fuel
    · cases enough
    rw [repeated, if_neg (Nat.not_lt.2 done)]
    dsimp only [List.nil_append]
    rw [run_char_of_refused stop, ite_self]
    rfl
  | cons c w ih =>
    obtain _ | fuel := fuel
    · cases enough
    obtain ⟨first, passes⟩ := List.forall_mem_cons.1 passes
    have further : last ≠ some b.length := fun same => Nat.lt_irrefl _ (fresh _ same)
    have later : ∀ u d v, w = u ++ d :: v → k ⟨u.reverse ++ c :: b, d :: (v ++ rest)⟩ caps = none := by
      rintro u d v rfl
      have earlier := early (c :: u) d v rfl
      rwa [List.reverse_cons, List.append_assoc] at earlier
    have fresh' : ∀ n ∈ some b.length, n < (c :: b).length := by
      rintro _ ⟨⟩
      exact Nat.lt_succ_self b.length
    have round := ih passes later (Nat.lt_of_succ_lt_succ enough) (Nat.le_succ_of_le done) fresh'
    have here : k ⟨b, c :: (w ++ rest)⟩ caps = none := early [] c w rfl
    rw [repeated, if_neg (Nat.not_lt.2 done)]
    dsimp only [List.cons_append, Cursor.pos]
    rw [run_char first, round, here, List.reverse_cons, List.append_assoc,
      if_pos (by simpa using further), List.singleton_append]
    cases k ⟨w.reverse ++ c :: b, rest⟩ caps <;> rfl

end

/-- What the usual expression looks for after an opening brace. -/
def named : Regex :=
  .cat (.group 1 (.rounds .greedy 1 none (.char inner))) (.char (.code 125 false))

section

variable {w rest b : List Char} {k : Cursor → Captures → Regex.Outcome}

/-- A name is taken as a whole, and what follows it is tried after it only. -/
theorem run_named (plain : ∀ c ∈ w, Plain c) (stop : ∀ c ∈ rest.head?, ¬Plain c) :
    run {} named ⟨b, w ++ rest⟩ [] k = if w = [] then none else
      run {} (.char (.code 125 false)) ⟨w.reverse ++ b, rest⟩ [(1, w)] k := by
  let after (e : Cursor) (caps : Captures) : Regex.Outcome :=
    run {} (.char (.code 125 false)) e ((1, Cursor.between ⟨b, w ++ rest⟩ e) :: caps) k
  have rounds : run {} named ⟨b, w ++ rest⟩ [] k =
      repeated (fun s caps k => run {} (.char inner) s caps k) .greedy 1 none
        (1 + (w ++ rest).length + 2) 0 none ⟨b, w ++ rest⟩ [] after := by
    rw [named, run, run, run]
    rintro ⟨⟩
  have stop' : ∀ c ∈ rest.head?, inner.holds {} c = false := fun c hc =>
    Bool.eq_false_iff.2 fun holds => stop c hc ((holds_inner c).1 holds)
  rw [rounds]
  cases w with
  | nil =>
    rw [repeated, if_pos Nat.one_pos]
    exact run_char_of_refused stop'
  | cons c w =>
    obtain ⟨first, others⟩ := List.forall_mem_cons.1 plain
    have behind : (c :: w).reverse ++ b = w.reverse ++ c :: b := by
      rw [List.reverse_cons, List.append_assoc, List.singleton_append]
    have passes : Cursor.Passes ⟨b, c :: w ++ rest⟩ ⟨w.reverse ++ c :: b, rest⟩ (c :: w) :=
      ⟨behind.symm, rfl⟩
    -- In front of a plain character, no brace closes.
    have early : ∀ u d v, w = u ++ d :: v →
        after ⟨u.reverse ++ c :: b, d :: (v ++ rest)⟩ [] = none := by
      rintro u d v rfl
      refine run_char_of_refused ?_
      rintro _ ⟨⟩
      have plain : Plain d := others d (by simp)
      exact Bool.eq_false_iff.2 fun holds => plain.2 ((holds_close d).1 holds)
    rw [repeated, if_pos Nat.one_pos, if_neg (List.cons_ne_nil c w), behind]
    conv_rhs => rw [← passes.between_eq]
    refine (run_char ((holds_inner c).2 first)).trans ?_
    exact repeated_char (fun d hd => (holds_inner d).2 (others d hd)) stop' early
      (by simp only [List.length_append, List.length_cons]; omega) (Nat.le_refl 1) (by rintro _ ⟨⟩)

end

theorem usualTree_eq : Pattern.usualTree = .cat (.char (.code 123 false)) named := rfl

theorem run_usual (b cs : List Char) (k : Cursor → Captures → Regex.Outcome) :
    run {} Pattern.usualTree ⟨b, '\x7b' :: cs⟩ [] k = run {} named ⟨'\x7b' :: b, cs⟩ [] k :=
  run_char (k := fun s caps => run {} named s caps k) ((holds_open _).2 rfl)

/-- A name in braces is matched up to its closing brace, whether or not the match has to advance. -/
theorem matchAt_of_braceable (advancing : Bool) (b : List Char) {w : List Char} (name : Braceable w)
    (after : List Char) :
    Pattern.usual.program.matchAt advancing ⟨b, '\x7b' :: (w ++ '\x7d' :: after)⟩ =
      some ⟨⟨b, '\x7b' :: (w ++ '\x7d' :: after)⟩, ⟨'\x7d' :: (w.reverse ++ '\x7b' :: b), after⟩,
        [(1, w)]⟩ := by
  obtain ⟨some, plain⟩ := name
  have stop : ∀ c ∈ ('\x7d' :: after).head?, ¬Plain c := by
    rintro _ ⟨⟩
    exact not_plain_close
  have onward : ('\x7d' :: (w.reverse ++ '\x7b' :: b)).length ≠ b.length := by
    simp only [List.length_cons, List.length_append]
    omega
  have ran : ∀ k, run {} Pattern.usualTree ⟨b, '\x7b' :: (w ++ '\x7d' :: after)⟩ [] k =
      k ⟨'\x7d' :: (w.reverse ++ '\x7b' :: b), after⟩ [(1, w)] := by
    intro k
    rw [run_usual, run_named plain stop, if_neg some]
    exact run_char ((holds_close _).2 rfl)
  rw [Program.matchAt]
  refine (congrArg _ (ran _)).trans ?_
  rw [Cursor.pos, Cursor.pos, beq_false_of_ne onward, Bool.and_false]
  rfl

/-- Only a name in braces is matched. -/
theorem exists_of_run {s : Cursor} {k : Cursor → Captures → Regex.Outcome}
    {r : Cursor × Captures} (h : run {} Pattern.usualTree s [] k = some r) :
    ∃ w after, Braceable w ∧ s.after = '\x7b' :: (w ++ '\x7d' :: after) := by
  obtain ⟨b, _ | ⟨c, cs⟩⟩ := s
  · cases h
  by_cases opens : c = '\x7b'
  · subst opens
    obtain ⟨w, rest, rfl, plain, stop⟩ := exists_plain cs
    rw [run_usual, run_named plain stop] at h
    split at h
    · cases h
    · rename_i some
      cases rest with
      | nil => cases h
      | cons d after =>
        by_cases closes : d = '\x7d'
        · exact ⟨w, after, ⟨some, plain⟩, closes ▸ rfl⟩
        · refine absurd (h.symm.trans (run_char_of_refused ?_)) (Option.some_ne_none r)
          rintro _ ⟨⟩
          exact Bool.eq_false_iff.2 fun holds => closes ((holds_close d).1 holds)
  · rw [usualTree_eq, run] at h
    refine absurd (h.symm.trans (run_char_of_refused ?_)) (Option.some_ne_none r)
    rintro _ ⟨⟩
    exact Bool.eq_false_iff.2 fun holds => opens ((holds_open c).1 holds)

/-- A match of the usual pattern is a name in braces with the name as what its group captured. -/
theorem matchAt_usual {advancing : Bool} {s : Cursor} {m : Found} :
    Pattern.usual.program.matchAt advancing s = some m ↔ ∃ w, Braceable w ∧ m.start = s ∧
      s.Passes m.stop ('\x7b' :: (w ++ ['\x7d'])) ∧ m.captures = [(1, w)] := by
  constructor
  · intro h
    obtain ⟨b, cs⟩ := s
    obtain ⟨r, ran, -⟩ := Option.map_eq_some_iff.1 h
    obtain ⟨w, after, name, rfl⟩ := exists_of_run ran
    cases h.symm.trans (matchAt_of_braceable advancing b name after)
    exact ⟨w, name, rfl, ⟨by simp, by simp⟩, rfl⟩
  · rintro ⟨w, name, rfl, passes, captures⟩
    obtain ⟨⟨b, cs⟩, ⟨b', after⟩, caps⟩ := m
    obtain ⟨before, later⟩ := passes
    dsimp only at before later captures ⊢
    simp only [List.cons_append, List.append_assoc, List.reverse_cons, List.reverse_append,
      List.reverse_nil, List.nil_append] at before later
    subst before later captures
    exact matchAt_of_braceable advancing b name after

end

/-! ## Occurrences -/

theorem not_occurs_nil (before w : List Char) : ¬Occurs [] before w := by
  rintro ⟨-, after, same⟩
  cases before <;> cases same

theorem Occurs.of_append {gap rest before w : List Char} (h : Occurs (gap ++ rest) before w)
    (reached : gap.length ≤ before.length) :
    ∃ before', before = gap ++ before' ∧ Occurs rest before' w := by
  obtain ⟨name, after, same⟩ := h
  obtain ⟨before', rfl⟩ : gap <+: before :=
    List.prefix_of_prefix_length_le ⟨rest, rfl⟩ ⟨_, same.symm⟩ reached
  rw [List.append_assoc, List.append_cancel_left_eq] at same
  exact ⟨before', rfl, name, after, same⟩

theorem Occurs.tail {c d : Char} {cs before w : List Char} (h : Occurs (c :: cs) (d :: before) w) :
    Occurs cs before w := by
  obtain ⟨name, after, same⟩ := h
  exact ⟨name, after, (List.cons_eq_cons.1 same).2⟩

/-- At one place stands one name. -/
theorem Occurs.unique {cs before before' w w' : List Char} (h : Occurs cs before w)
    (h' : Occurs cs before' w') (length : before.length = before'.length) :
    before = before' ∧ w = w' := by
  obtain ⟨⟨-, plain⟩, after, rfl⟩ := h
  obtain ⟨⟨-, plain'⟩, after', same⟩ := h'
  obtain ⟨rfl, rest⟩ := List.append_inj same length
  obtain ⟨rfl, -⟩ := append_brace_inj plain plain' not_plain_close not_plain_close
    (List.cons_eq_cons.1 rest).2
  exact ⟨rfl, rfl⟩

/-- Behind a text without a character, and another character, stands every place of that
character. -/
theorem exists_of_append_cons {w after before rest : List Char} {c d : Char} (free : d ∉ w)
    (other : c ≠ d) (same : w ++ c :: after = before ++ d :: rest) :
    ∃ before', before = w ++ c :: before' ∧ after = before' ++ d :: rest := by
  obtain ⟨behind, rfl, tails⟩ | ⟨cut, rfl, tails⟩ := List.append_eq_append_iff.1 same
  · cases behind with
    | nil => exact absurd (List.cons_eq_cons.1 tails).1 other
    | cons c' behind =>
      obtain ⟨rfl, rest⟩ := List.cons_eq_cons.1 tails
      exact ⟨behind, rfl, rest⟩
  · cases cut with
    | nil => exact absurd (List.cons_eq_cons.1 tails).1.symm other
    | cons d' cut =>
      obtain ⟨rfl, -⟩ := List.cons_eq_cons.1 tails
      exact absurd (List.mem_append_right before List.mem_cons_self) free

/-- Names in braces do not overlap: past one of them, the next stands behind its closing brace. -/
theorem Occurs.past {w after before w' : List Char} (name : Braceable w)
    (h : Occurs ('\x7b' :: (w ++ '\x7d' :: after)) before w') :
    before = [] ∧ w' = w ∨
      ∃ before', before = '\x7b' :: (w ++ '\x7d' :: before') ∧ Occurs after before' w' := by
  cases before with
  | nil => exact .inl ⟨rfl, (h.unique ⟨name, after, rfl⟩ rfl).2⟩
  | cons c before =>
    obtain ⟨name', rest, same⟩ := h
    obtain ⟨rfl, tails⟩ := List.cons_eq_cons.1 same
    obtain ⟨before', rfl, behind⟩ :=
      exists_of_append_cons (fun brace => (name.2 _ brace).1 rfl) (by decide) tails
    exact .inr ⟨before', rfl, name', rest, behind⟩

/-! ## Matches and occurrences -/

section

open Regex

variable {advancing : Bool} {s : Cursor} {ms : List Found}

theorem name_of_captures {m : Found} {w : List Char} (h : m.captures = [(1, w)]) :
    m.name = some (String.ofList w) := by
  rw [Found.name, h]
  rfl

/-- Where a name stands in braces there is a match. -/
theorem exists_matchAt_of_occurs (advancing : Bool) {before w : List Char}
    (h : Occurs s.after before w) :
    ∃ e m, s.Passes e before ∧ Pattern.usual.program.matchAt advancing e = some m := by
  obtain ⟨name, after, same⟩ := h
  exact ⟨⟨before.reverse ++ s.before, _⟩, _, ⟨rfl, same⟩, matchAt_of_braceable _ _ name after⟩

theorem Regex.Barren.free (h : Barren Pattern.usual.program advancing s) (before w : List Char) :
    ¬Occurs s.after before w := by
  intro occurs
  obtain ⟨e, m, passes, found⟩ :=
    exists_matchAt_of_occurs (advancing && before.isEmpty) occurs
  exact absurd (found.symm.trans (h e before passes)) (Option.some_ne_none m)

/-- No name stands in braces before the earliest match. -/
theorem Regex.Earliest.free {gap : List Char} {m : Found}
    (h : Earliest Pattern.usual.program advancing s gap m) {before w : List Char}
    (earlier : before.length < gap.length) : ¬Occurs s.after before w := by
  intro occurs
  obtain ⟨e, m', passes, found⟩ :=
    exists_matchAt_of_occurs (advancing && before.isEmpty) occurs
  obtain ⟨ds, some, on⟩ := passes.of_shorter h.skipped earlier
  exact absurd (found.symm.trans (h.first e before ds passes on some)) (Option.some_ne_none m')

end

/-! ## Expansions -/

namespace Expands

variable [Platform] {params : Dict} {cs gap out out' : List Char}

/-- Characters with which no name in braces starts stay as they are. -/
theorem append (free : ∀ before w, before.length < gap.length → ¬Occurs (gap ++ cs) before w)
    (rest : Expands params cs out) : Expands params (gap ++ cs) (gap ++ out) := by
  induction gap with
  | nil => exact rest
  | cons c gap ih =>
    refine .keep (free [] · (Nat.succ_pos _)) (ih fun before w shorter occurs => ?_)
    obtain ⟨name, after, same⟩ := occurs
    exact free (c :: before) w (Nat.succ_lt_succ shorter) ⟨name, after, congrArg (c :: ·) same⟩

theorem supplied (h : Expands params cs out) {before w : List Char} (occurs : Occurs cs before w) :
    Supplied params (some (String.ofList w)) ∧ Worded params (some (String.ofList w)) := by
  induction h generalizing before with
  | nil => exact absurd occurs (not_occurs_nil before w)
  | keep free _ ih =>
    cases before with
    | nil => exact absurd occurs (free w)
    | cons d before => exact ih occurs.tail
  | @fill w _ _ v name value other worded _ ih =>
    rcases occurs.past name with ⟨-, rfl⟩ | ⟨before', -, beyond⟩
    · refine ⟨⟨v, value, other⟩, ?_⟩
      rwa [Worded, Template.value, (given?_eq_some_iff params (some _)).2 ⟨value, other⟩]
    · exact ih beyond

theorem unique (h : Expands params cs out) (h' : Expands params cs out') : out = out' := by
  induction h generalizing out' with
  | nil =>
    cases h'
    rfl
  | keep free _ ih =>
    generalize same : _ :: _ = cs at h'
    cases h' with
    | nil => cases same
    | keep _ rest =>
      obtain ⟨rfl, rfl⟩ := List.cons_eq_cons.1 same
      rw [ih rest]
    | fill name => exact absurd ⟨name, _, same⟩ (free _)
  | fill name value _ _ _ ih =>
    generalize same : _ :: _ = cs at h'
    cases h' with
    | nil => cases same
    | keep free => exact absurd ⟨name, _, same.symm⟩ (free _)
    | fill name' value' _ _ rest =>
      obtain ⟨rfl, -, rfl⟩ := append_brace_inj name.2 name'.2 not_plain_close not_plain_close
        (List.cons_eq_cons.1 same).2
      rw [Option.some.inj (value.symm.trans value'), ih rest]

theorem refl (free : ∀ before w, ¬Occurs cs before w) : Expands params cs cs := by
  have kept : Expands params (cs ++ []) (cs ++ []) := by
    refine append (fun before w _ => ?_) .nil
    rw [List.append_nil]
    exact free before w
  rwa [List.append_nil] at kept

end Expands

/-! ## Names that fall short -/

theorem FirstShort.unique {meets : Option String → Prop} {cs before before' w w' : List Char}
    (h : FirstShort meets cs before w) (h' : FirstShort meets cs before' w') : w = w' := by
  rcases Nat.lt_trichotomy before.length before'.length with shorter | same | longer
  · exact absurd (h'.2.2 before w h.1 shorter) h.2.1
  · exact (h.1.unique h'.1 same).2
  · exact absurd (h.2.2 before' w' h'.1 longer) h'.2.1

section

variable {text : String} {params : Dict}

variable [Platform]

end

example : (@Pattern.interpolate .usual .usual "/\x7b\x7ba\x7d"
    [(.text "a", .text "b\x7d")]).toOption = some "/\x7bb\x7d" := by
  decide +kernel

end RouteSchema
