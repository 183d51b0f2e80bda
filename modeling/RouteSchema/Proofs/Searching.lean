import Mathlib.Data.Finset.Dedup
import RouteSchema.Proofs.Performing
import RouteSchema.Proofs.Placing

/-!
# Searches

What a search with an arbitrary expression finds, and what a template becomes under it.

* `Cursor.Passes` relates two places of a text; `passesOn_of_run`: an expression only passes on.
* `Successive` says which matches a search takes: each is at the first place that has one.
* `Replaces` is the text with the matches replaced and the rest as it is.
* `interpolate_search`: names and replacements come from the same matches, for every pattern.
-/

namespace RouteSchema

namespace Regex

/-- Between a place and a later one stand some characters. -/
structure Cursor.Passes (s e : Cursor) (cs : List Char) : Prop where
  before : e.before = cs.reverse ++ s.before
  after : s.after = cs ++ e.after

/-- How a match that goes on may end: later in the text, where the continuation ends so. -/
def PassesOn (s : Cursor) (k : Cursor → Captures → Outcome) (r : Cursor × Captures) : Prop :=
  ∃ e caps cs, s.Passes e cs ∧ k e caps = some r

/-- The name that a match holds. -/
def Found.name (m : Found) : Option String := (m.captures.get? 1).map String.ofList

/-- No match starts at a place or after it. `advancing` refuses an empty one at that very place. -/
def Barren (p : Program) (advancing : Bool) (s : Cursor) : Prop :=
  ∀ e cs, s.Passes e cs → p.matchAt (advancing && cs.isEmpty) e = none

/-- A match is the one at the first place that has any, some characters on. -/
structure Earliest (p : Program) (advancing : Bool) (s : Cursor) (gap : List Char) (m : Found) :
    Prop where
  skipped : s.Passes m.start gap
  found : p.matchAt (advancing && gap.isEmpty) m.start = some m
  first : ∀ e cs ds, s.Passes e cs → e.Passes m.start ds → ds ≠ [] →
    p.matchAt (advancing && cs.isEmpty) e = none

/-- The matches of a search from a place on. Each is the earliest after the one before it; an empty
one is not followed by an empty one at the same place. -/
inductive Successive (p : Program) : Bool → Cursor → List Found → Prop
  | done {advancing : Bool} {s : Cursor} (none : Barren p advancing s) : Successive p advancing s []
  | next {advancing : Bool} {s : Cursor} {m : Found} {ms : List Found} {gap width : List Char}
      (earliest : Earliest p advancing s gap m) (covered : m.start.Passes m.stop width)
      (rest : Successive p width.isEmpty m.stop ms) : Successive p advancing s (m :: ms)

/-! ## Places -/

namespace Cursor.Passes

variable {s e t : Cursor} {cs ds : List Char}

theorem refl (s : Cursor) : s.Passes s [] := ⟨rfl, rfl⟩

theorem trans (h : s.Passes e cs) (h' : e.Passes t ds) : s.Passes t (cs ++ ds) where
  before := by rw [h'.before, h.before, List.reverse_append, List.append_assoc]
  after := by rw [h.after, h'.after, List.append_assoc]

theorem cons (c : Char) (before after : List Char) :
    Cursor.Passes ⟨before, c :: after⟩ ⟨c :: before, after⟩ [c] := ⟨rfl, rfl⟩

theorem pos_eq (h : s.Passes e cs) : e.pos = s.pos + cs.length := by
  have length := congrArg List.length h.before
  rw [List.length_append, List.length_reverse] at length
  simp only [pos]
  omega

/-- What stands between two places is read off them. -/
theorem between_eq (h : s.Passes e cs) : s.between e = cs := by
  have width : e.pos - s.pos = cs.reverse.length := by
    rw [h.pos_eq, List.length_reverse, Nat.add_sub_cancel_left]
  rw [between, h.before, width, List.take_left, List.reverse_reverse]

theorem pos_beq (h : s.Passes e cs) : (e.pos == s.pos) = cs.isEmpty := by
  rw [h.pos_eq]
  cases cs with
  | nil => exact beq_self_eq_true s.pos
  | cons c cs => exact beq_false_of_ne (by rw [List.length_cons]; omega)

/-- From a place to itself there is nothing. -/
theorem eq_nil (h : s.Passes s cs) : cs = [] := by
  have pos := h.pos_eq
  exact List.length_eq_zero_iff.1 (by omega)

/-- A place that is passed on to is the same, or one character on at least. -/
theorem eq_or_cons (h : s.Passes e cs) : cs = [] ∧ e = s ∨
    ∃ c cs', cs = c :: cs' ∧ s.after = c :: (cs' ++ e.after) ∧
      Cursor.Passes ⟨c :: s.before, cs' ++ e.after⟩ e cs' := by
  cases cs with
  | nil => exact .inl ⟨rfl, congrArg₂ Cursor.mk h.before h.after.symm⟩
  | cons c cs =>
    refine .inr ⟨c, cs, rfl, h.after, ?_, rfl⟩
    rw [h.before, List.reverse_cons, List.append_assoc]
    rfl

/-- Of two places further on, the nearer passes on to the other. -/
theorem of_shorter (h : s.Passes e cs) (h' : s.Passes t ds) (shorter : cs.length < ds.length) :
    ∃ cs', cs' ≠ [] ∧ e.Passes t cs' := by
  obtain ⟨cs', rfl⟩ : cs <+: ds := List.prefix_of_prefix_length_le
    ⟨e.after, h.after.symm⟩ ⟨t.after, h'.after.symm⟩ (Nat.le_of_lt shorter)
  refine ⟨cs', ?_, ?_, ?_⟩
  · rintro rfl
    simp at shorter
  · rw [h'.before, h.before, List.reverse_append, List.append_assoc]
  · have rest := h.after.symm.trans h'.after
    rwa [List.append_assoc, List.append_cancel_left_eq] at rest

theorem of_next? {c : Char} (h : s.next? = some (c, e)) : s.Passes e [c] := by
  obtain ⟨before, after⟩ := s
  cases after with
  | nil => cases h
  | cons d after =>
    cases h
    exact .cons c before after

end Cursor.Passes

/-! ## Runs only pass on -/

theorem PassesOn.here {s : Cursor} {caps : Captures} {k : Cursor → Captures → Outcome}
    {r : Cursor × Captures} (h : k s caps = some r) : PassesOn s k r :=
  ⟨s, caps, [], .refl s, h⟩

theorem PassesOn.of_passes {s e : Cursor} {cs : List Char} {k : Cursor → Captures → Outcome}
    {r : Cursor × Captures} (passes : s.Passes e cs) (h : PassesOn e k r) : PassesOn s k r := by
  obtain ⟨e', caps, ds, later, h⟩ := h
  exact ⟨e', caps, cs ++ ds, passes.trans later, h⟩

theorem PassesOn.bind {s : Cursor} {k k' : Cursor → Captures → Outcome} {r : Cursor × Captures}
    (h : PassesOn s k r) (on : ∀ e caps, k e caps = some r → PassesOn e k' r) :
    PassesOn s k' r := by
  obtain ⟨e, caps, cs, passes, h⟩ := h
  exact .of_passes passes (on e caps h)

/-- A final match is a place that is passed on to. -/
theorem PassesOn.passes {s : Cursor} {r : Cursor × Captures}
    (h : PassesOn s (fun e caps => some (e, caps)) r) : ∃ cs, s.Passes r.1 cs := by
  obtain ⟨e, caps, cs, passes, h⟩ := h
  cases h
  exact ⟨cs, passes⟩

theorem passes_of_skipText? {f : Flags} {cs : List Char} {s e : Cursor}
    (h : skipText? f cs s = some e) : ∃ ds, s.Passes e ds := by
  induction cs generalizing s with
  | nil =>
    cases h
    exact ⟨[], .refl _⟩
  | cons c cs ih =>
    rw [skipText?] at h
    split at h
    · rename_i d t next
      dsimp only at h
      generalize (if f.ignoreCase = true then _ else _) = same at h
      cases same
      · cases h
      · obtain ⟨ds, passes⟩ := ih h
        exact ⟨_, (Cursor.Passes.of_next? next).trans passes⟩
    · cases h

theorem passesOn_of_repeated {step : Cursor → Captures → (Cursor → Captures → Outcome) → Outcome}
    (onward : ∀ s caps k r, step s caps k = some r → PassesOn s k r) {greed : Greed} {least : Nat}
    {most : Option Nat} {k : Cursor → Captures → Outcome} {r : Cursor × Captures} (fuel : Nat)
    {count : Nat} {last : Option Nat} {s : Cursor} {caps : Captures}
    (h : repeated step greed least most fuel count last s caps k = some r) : PassesOn s k r := by
  induction fuel generalizing count last s caps with
  | zero => exact .here h
  | succ fuel ih =>
    have again : ∀ last, (step s caps fun s caps =>
        repeated step greed least most fuel (count + 1) last s caps k) = some r →
          PassesOn s k r :=
      fun _ h => (onward _ _ _ _ h).bind fun _ _ h => ih h
    have again? : ∀ (may : Bool) last, (if may then step s caps fun s caps =>
        repeated step greed least most fuel (count + 1) last s caps k else none) = some r →
          PassesOn s k r := by
      intro may last h
      cases may
      · cases h
      · exact again last h
    rw [repeated] at h
    dsimp only at h
    split at h
    · exact again _ h
    · split at h
      · split at h
        · rename_i stopped
          exact .here (stopped.trans h)
        · exact again? _ _ h
      · split at h
        · rename_i taken
          exact again? _ _ (taken.trans h)
        · exact .here h

theorem passes_of_repeatedFinal {step : Cursor → Captures → Outcome}
    (onward : ∀ s caps r, step s caps = some r → ∃ cs, s.Passes r.1 cs) {least : Nat}
    {most : Option Nat} {r : Cursor × Captures} (fuel : Nat) {count : Nat} {last : Option Nat}
    {s : Cursor} {caps : Captures}
    (h : repeatedFinal step least most fuel count last s caps = some r) :
    ∃ cs, s.Passes r.1 cs := by
  have stay : ∀ {s : Cursor} {caps : Captures}, some (s, caps) = some r → ∃ cs, s.Passes r.1 cs := by
    rintro s caps ⟨⟩
    exact ⟨[], .refl s⟩
  induction fuel generalizing count last s caps with
  | zero => exact stay h
  | succ fuel ih =>
    have round : ∀ {e : Cursor} {caps' : Captures} {last : Option Nat},
        step s caps = some (e, caps') →
          repeatedFinal step least most fuel (count + 1) last e caps' = some r →
            ∃ cs, s.Passes r.1 cs := by
      intro e caps' last first rest
      obtain ⟨cs, passes⟩ := onward _ _ _ first
      obtain ⟨ds, later⟩ := ih rest
      exact ⟨cs ++ ds, passes.trans later⟩
    rw [repeatedFinal] at h
    split at h
    · split at h
      · exact round ‹_› h
      · cases h
    · split at h
      · split at h
        · exact round ‹_› h
        · exact stay h
      · exact stay h

variable {s : Cursor} {k : Cursor → Captures → Outcome} {r : Cursor × Captures}

/-- What is looked at decides whether the rest is tried, which it is at the same place. -/
theorem passesOn_of_look {found : Outcome} {negated : Bool} {caps : Captures}
    (h : (match found with
      | some (_, caps) => if negated then none else k s caps
      | none => if negated then k s caps else none) = some r) : PassesOn s k r := by
  cases found with
  | some found =>
    cases negated with
    | true => cases h
    | false => exact .here h
  | none =>
    cases negated with
    | true => exact .here h
    | false => cases h

theorem passesOn_of_final {found : Outcome}
    (h : (match found with
      | some (e, caps) => k e caps
      | none => none) = some r)
    (onward : ∀ r, found = some r → ∃ cs, s.Passes r.1 cs) : PassesOn s k r := by
  cases found with
  | some found =>
    obtain ⟨cs, passes⟩ := onward _ rfl
    exact .of_passes passes (.here h)
  | none => cases h

/-- **A run only passes on.** Whatever the expression is, the place where its continuation succeeds
is no earlier than the one where it is run. -/
theorem passesOn_of_run {f : Flags} {tree : Regex} {caps : Captures}
    (h : run f tree s caps k = some r) : PassesOn s k r := by
  induction tree generalizing f s caps k r with
  | empty => exact .here h
  | char test =>
    rw [run] at h
    split at h
    · split at h
      · exact .of_passes (.of_next? ‹_›) (.here h)
      · cases h
    · cases h
  | anchor a =>
    rw [run] at h
    split at h
    · exact .here h
    · cases h
  | cat a b iha ihb => exact (iha h).bind fun _ _ h => ihb h
  | alt a b iha ihb =>
    rw [run] at h
    split at h
    · rename_i taken
      exact iha (taken.trans h)
    · exact ihb h
  | group n a ih => exact (ih h).bind fun _ _ h => .here h
  | flagged on off a ih => exact ih h
  | atomic a ih =>
    rw [run] at h
    exact passesOn_of_final h fun _ h => (ih h).passes
  | rounds greed least most a ih =>
    cases greed with
    | possessive =>
      rw [run] at h
      exact passesOn_of_final h fun _ h =>
        passes_of_repeatedFinal (fun _ _ _ h => (ih h).passes) _ h
    | greedy | lazy =>
      rw [run] at h
      · exact passesOn_of_repeated (fun _ _ _ _ h => ih h) _ h
      · rintro ⟨⟩
  | look behind negated a =>
    cases behind <;> exact passesOn_of_look h
  | backref n =>
    rw [run] at h
    split at h
    · split at h
      · obtain ⟨ds, passes⟩ := passes_of_skipText? ‹_›
        exact .of_passes passes (.here h)
      · cases h
    · cases h
  | cond n yes no ihy ihn =>
    rw [run] at h
    split at h
    · exact ihy h
    · exact ihn h

/-! ## Matches -/

variable {p : Program} {advancing : Bool}

/-- A match starts where it is tried and covers the characters up to a later place; one that
advances covers some. -/
theorem covers_of_matchAt {m : Found} (h : p.matchAt advancing s = some m) :
    m.start = s ∧ ∃ width, s.Passes m.stop width ∧ (advancing && width.isEmpty) = false := by
  obtain ⟨⟨e, caps⟩, ran, rfl⟩ := Option.map_eq_some_iff.1 h
  obtain ⟨e', caps', width, passes, final⟩ := passesOn_of_run ran
  dsimp only at final
  rw [passes.pos_beq] at final
  split at final
  · cases final
  · cases final
    exact ⟨rfl, width, passes, Bool.eq_false_iff.2 ‹_›⟩

theorem Earliest.here {m : Found} (h : p.matchAt advancing s = some m) :
    Earliest p advancing s [] m := by
  obtain ⟨rfl, -⟩ := covers_of_matchAt h
  refine ⟨.refl _, ?_, fun e cs ds before after some => ?_⟩
  · rwa [List.isEmpty_nil, Bool.and_true]
  · exact absurd (List.append_eq_nil_iff.1 (before.trans after).eq_nil).2 some

/-- The places that a place passes on to are itself and those after the next character. -/
theorem eq_none_of_later {c : Char} {before after cs : List Char} {e : Cursor}
    (here : p.matchAt advancing ⟨before, c :: after⟩ = none)
    (later : ∀ cs', Cursor.Passes ⟨c :: before, after⟩ e cs' → p.matchAt false e = none)
    (h : Cursor.Passes ⟨before, c :: after⟩ e cs) :
    p.matchAt (advancing && cs.isEmpty) e = none := by
  rcases h.eq_or_cons with ⟨rfl, rfl⟩ | ⟨d, cs', rfl, same, on⟩
  · rwa [List.isEmpty_nil, Bool.and_true]
  · obtain ⟨rfl, rest⟩ := List.cons_eq_cons.1 same
    rw [List.isEmpty_cons, Bool.and_false]
    exact later cs' (rest ▸ on)

/-- A place without a match is passed over. -/
theorem Earliest.later {m : Found} {c : Char} {before after gap : List Char}
    (here : p.matchAt advancing ⟨before, c :: after⟩ = none)
    (h : Earliest p false ⟨c :: before, after⟩ gap m) :
    Earliest p advancing ⟨before, c :: after⟩ (c :: gap) m := by
  refine ⟨(Cursor.Passes.cons c before after).trans h.skipped, ?_, ?_⟩
  · rw [List.isEmpty_cons, Bool.and_false]
    exact h.found
  · intro e cs ds skipped rest some
    exact eq_none_of_later here (fun cs' on => h.first e cs' ds on rest some) skipped

theorem Barren.later {c : Char} {before after : List Char}
    (here : p.matchAt advancing ⟨before, c :: after⟩ = none)
    (h : Barren p false ⟨c :: before, after⟩) : Barren p advancing ⟨before, c :: after⟩ :=
  fun e _ skipped => eq_none_of_later here (fun cs' on => h e cs' on) skipped

/-- A search for one match finds the earliest, or none if there is none. -/
theorem find_spec (p : Program) (advancing : Bool) (before after : List Char) :
    (∃ m gap, p.find advancing before after = some m ∧
      Earliest p advancing ⟨before, after⟩ gap m) ∨
    p.find advancing before after = none ∧ Barren p advancing ⟨before, after⟩ := by
  induction after generalizing advancing before with
  | nil =>
    cases here : p.matchAt advancing ⟨before, []⟩ with
    | some m => exact .inl ⟨m, [], here, .here here⟩
    | none =>
      refine .inr ⟨here, fun e cs skipped => ?_⟩
      rcases skipped.eq_or_cons with ⟨rfl, rfl⟩ | ⟨d, cs', rfl, same, -⟩
      · rwa [List.isEmpty_nil, Bool.and_true]
      · cases same
  | cons c after ih =>
    rw [Program.find]
    cases here : p.matchAt advancing ⟨before, c :: after⟩ with
    | some m => exact .inl ⟨m, [], rfl, .here here⟩
    | none =>
      rcases ih false (c :: before) with ⟨m, gap, found, earliest⟩ | ⟨found, barren⟩
      · exact .inl ⟨m, c :: gap, found, earliest.later here⟩
      · exact .inr ⟨found, barren.later here⟩

/-- How many matches may still follow: two for each character, one if an empty one is refused. -/
theorem successive_findFrom (p : Program) (fuel : Nat) {advancing : Bool} {s : Cursor}
    (enough : 2 * s.after.length + (!advancing).toNat < fuel) :
    Successive p advancing s (p.findFrom fuel advancing s) := by
  induction fuel generalizing advancing s with
  | zero => exact absurd enough (Nat.not_lt_zero _)
  | succ fuel ih =>
    rw [Program.findFrom]
    rcases find_spec p advancing s.before s.after with
      ⟨m, gap, found, earliest⟩ | ⟨found, barren⟩
    · rw [found]
      obtain ⟨-, width, covered, some⟩ := covers_of_matchAt earliest.found
      dsimp only
      rw [covered.pos_beq]
      refine .next earliest covered (ih ?_)
      have length : s.after.length = gap.length + (width.length + m.stop.after.length) := by
        rw [show s.after = _ from earliest.skipped.after, covered.after]
        simp
      -- An empty match makes the search advance, unless it did so and came some characters on.
      cases width <;> cases gap <;> cases advancing <;> simp_all <;> omega
    · rw [found]
      exact .done barren

/-- **The matches in a text are the successive ones.** No bound on their number cuts them off. -/
theorem successive_findAll (p : Program) (text : String) :
    Successive p false (.start text.toList) (p.findAll text) :=
  successive_findFrom p _ (by simp [Cursor.start])

namespace Successive

variable {ms : List Found}

end Successive

end Regex

/-! ## Templates -/

/-- A text from a place on with the matches that follow replaced by the texts of the values of their
names. -/
inductive Replaces [Platform] (params : Dict) : Regex.Cursor → List Regex.Found → List Char → Prop
  | tail (s : Regex.Cursor) : Replaces params s [] s.after
  | hole {s : Regex.Cursor} {m : Regex.Found} {ms : List Regex.Found} {gap rest : List Char}
      {v : Value} (kept : s.Passes m.start gap)
      (value : Assoc.get? params (nameValue m.name) = some v) (other : v ≠ .null)
      (worded : v.HasText) (others : Replaces params m.stop ms rest) :
      Replaces params s (m :: ms) (gap ++ v.display.toList ++ rest)

/-- The names of the placeholders of a text, as a set. -/
def Pattern.required (p : Pattern) (text : String) : Finset (Option String) :=
  (p.names text).toFinset

theorem Template.names_cut (s : Regex.Cursor) (ms : List Regex.Found) :
    (Template.cut s ms).holes.map Prod.snd = ms.map Regex.Found.name := by
  induction ms generalizing s with
  | nil => rfl
  | cons m ms ih => exact congrArg (m.name :: ·) (ih m.stop)

theorem Template.substitute_cut (s : Regex.Cursor) (m : Regex.Found) (ms : List Regex.Found)
    (value : Option String → String) :
    ((Template.cut s (m :: ms)).substitute value).toList =
      s.between m.start ++ (value m.name).toList ++
        ((Template.cut m.stop ms).substitute value).toList := by
  simp [Template.substitute, Template.cut, Regex.Found.name]

theorem Pattern.names_eq (p : Pattern) (text : String) :
    p.names text = Template.firsts ((p.program.findAll text).map Regex.Found.name) := by
  rw [← Template.names_cut]
  rfl

theorem Pattern.mem_names {p : Pattern} {text : String} {name : Option String} :
    name ∈ p.names text ↔ ∃ m ∈ p.program.findAll text, m.name = name := by
  rw [p.names_eq, mem_firsts, List.mem_map]

section

variable [Platform]

namespace Replaces

variable {params : Dict} {s : Regex.Cursor} {ms : List Regex.Found} {out out' : List Char}

theorem supplied (h : Replaces params s ms out) :
    ∀ m ∈ ms, Supplied params m.name ∧ Worded params m.name := by
  induction h with
  | tail s => exact List.forall_mem_nil _
  | @hole _ m _ _ _ v _ value other worded _ ih =>
    refine List.forall_mem_cons.2 ⟨⟨⟨v, value, other⟩, ?_⟩, ih⟩
    rwa [Worded, Template.value, (given?_eq_some_iff params m.name).2 ⟨value, other⟩]

theorem unique (h : Replaces params s ms out) (h' : Replaces params s ms out') : out = out' := by
  induction h generalizing out' with
  | tail s => cases h'; rfl
  | hole kept value _ _ _ ih =>
    cases h' with
    | hole kept' value' _ _ others =>
      rw [← kept.between_eq, kept'.between_eq, Option.some.inj (value.symm.trans value'), ih others]

/-- Cut at its matches and filled, a text has them replaced. -/
theorem of_successive {p : Regex.Program} {advancing : Bool}
    (h : Regex.Successive p advancing s ms)
    (supplied : ∀ m ∈ ms, Supplied params m.name ∧ Worded params m.name) :
    Replaces params s ms ((Template.cut s ms).substitute fun name =>
      (Template.value params name).display).toList := by
  induction h with
  | done =>
    rw [Template.substitute, String.toList_ofList]
    exact .tail _
  | @next _ _ m ms gap _ earliest _ _ ih =>
    obtain ⟨⟨⟨v, value, other⟩, worded⟩, others⟩ := List.forall_mem_cons.1 supplied
    have given : Template.value params m.name = v := by
      rw [Template.value, (given?_eq_some_iff params m.name).2 ⟨value, other⟩, Option.getD_some]
    rw [Worded, given] at worded
    rw [Template.substitute_cut, earliest.skipped.between_eq, given]
    exact .hole earliest.skipped value other worded (ih others)

end Replaces

variable {p : Pattern} {text : String} {params : Dict}

theorem Pattern.interpolate_of_firstMissing {name : Option String}
    (h : FirstMissing params (p.names text) name) :
    p.interpolate text params = .error (.unfilled text name) := by
  have missing : (Template.read p text).missing? params = some name := find?_of_firstMissing h
  rw [interpolate, Template.fill, missing]

/-- Where all names have values with texts, the matches are replaced by them. -/
theorem Pattern.replaces_of_supplied
    (h : ∀ name ∈ p.names text, Supplied params name ∧ Worded params name) :
    ∃ url, p.interpolate text params = .ok url ∧
      Replaces params (.start text.toList) (p.program.findAll text) url.toList := by
  obtain ⟨url, filled⟩ :=
    exists_interpolate_of_worded (fun name hn => (h name hn).1) fun name hn => (h name hn).2
  have replaces := Replaces.of_successive (Regex.successive_findAll p.program text) fun m mem =>
    h m.name (mem_names.2 ⟨m, mem, rfl⟩)
  obtain ⟨same, -⟩ := fill_eq_ok filled
  exact ⟨url, filled, same ▸ replaces⟩

/-- A text is filled exactly with its matches replaced. -/
theorem Pattern.interpolate_eq_ok_iff {url : String} : p.interpolate text params = .ok url ↔
    Replaces params (.start text.toList) (p.program.findAll text) url.toList := by
  constructor
  · intro filled
    rcases firstMissing_or_supplied params (p.names text) with ⟨name, missing⟩ | supplied
    · cases filled.symm.trans (interpolate_of_firstMissing missing)
    rcases interpolate_of_supplied supplied with ⟨worded, -⟩ | ⟨f, -, unfilled⟩
    · obtain ⟨url', filled', replaces⟩ :=
        replaces_of_supplied fun name hn => ⟨supplied name hn, worded name hn⟩
      cases filled.symm.trans filled'
      exact replaces
    · cases filled.symm.trans unfilled
  · intro replaces
    have supplied : ∀ name ∈ p.names text, Supplied params name ∧ Worded params name := by
      intro name hn
      obtain ⟨m, mem, rfl⟩ := mem_names.1 hn
      exact replaces.supplied m mem
    obtain ⟨url', filled, replaces'⟩ := replaces_of_supplied supplied
    rw [filled, String.toList_injective (replaces.unique replaces')]

/-- A text is filled exactly if each of its names has a value with a text. -/
theorem Pattern.exists_interpolate_iff : (∃ url, p.interpolate text params = .ok url) ↔
    ∀ name ∈ p.names text, Supplied params name ∧ Worded params name := by
  refine ⟨fun ⟨url, filled⟩ name hn => ?_, fun supplied => ?_⟩
  · obtain ⟨m, mem, rfl⟩ := mem_names.1 hn
    exact (interpolate_eq_ok_iff.1 filled).supplied m mem
  · obtain ⟨url, filled, -⟩ := replaces_of_supplied supplied
    exact ⟨url, filled⟩

end

end RouteSchema
