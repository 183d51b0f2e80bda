import RouteSchema.Proofs.Sequencing
import RouteSchema.Proofs.Spelling

/-!
# What a JSON reader makes

A JSON reader gives names of members as texts, makes no values that JSON does not know, and no
integers of too many digits.

* `Made` is a property of the values that a reader makes, and `of_read` says so of whole texts.
* `Named` is what values have that are read: `named_of_read`.
-/

namespace RouteSchema.Json

/-- A value that JSON knows, with integers of few digits and texts as the names of members. -/
inductive Named : Value → Prop
  | null : Named .null
  | bool (b : Bool) : Named (.bool b)
  | int {i : Int} (few : Value.isShort i = true) : Named (.int i)
  | float (x : Binary64) : Named (.float x)
  | text (s : String) : Named (.text s)
  | list {items : List Value} (h : ∀ v ∈ items, Named v) : Named (.list items)
  | dict {entries : Dict} (names : ∀ e ∈ entries, ∃ name, e.1 = .text name)
      (values : ∀ e ∈ entries, Named e.2) : Named (.dict entries)

theorem Named.ofEntries {entries : Dict}
    (h : ∀ e ∈ entries, (∃ name, e.1 = .text name) ∧ Named e.2) : Named (.dict entries) :=
  .dict (fun e he => (h e he).1) fun e he => (h e he).2

/-- A property of the values that a reader makes: it holds of those without parts, and of a container
if it holds of the parts. -/
structure Made (P : Value → Prop) : Prop where
  null : P .null
  bool (b : Bool) : P (.bool b)
  text (s : String) : P (.text s)
  nan : P (.float .nan)
  infinite (negative : Bool) : P (.float (.infinite negative))
  number {start pos : Nat} {negative : Bool} {cs : List Char} {r : Step Value}
    (h : number start negative pos cs = .ok r) : P r.1
  list {items : List Value} (h : ∀ v ∈ items, P v) : P (.list items)
  dict {entries : Dict} (h : ∀ e ∈ entries, (∃ name, e.1 = .text name) ∧ P e.2) :
    P (.dict (Assoc.ofList entries))

/-- What reading with a bounded depth gives. -/
structure Reads (P : Value → Prop) (fuel : Nat) : Prop where
  value : ∀ {pos cs r}, value fuel pos cs = .ok r → P r.1
  items : ∀ {pos cs acc r}, (∀ v ∈ acc, P v) → items fuel pos cs acc = .ok r → P r.1
  members : ∀ {pos cs} {acc : Dict} {r}, (∀ e ∈ acc, (∃ name, e.1 = .text name) ∧ P e.2) →
    members fuel pos cs acc = .ok r → P r.1

namespace Reads

variable {P : Value → Prop} {fuel : Nat} (made : Made P) (shallow : Reads P fuel)

include made shallow

theorem value_succ {pos : Nat} {cs : List Char} {r : Step Value}
    (h : Json.value (fuel + 1) pos cs = .ok r) : P r.1 := by
  unfold Json.value at h
  split at h
  · obtain ⟨⟨s, after⟩, -, h⟩ := Outcome.map_eq_ok.1 h
    cases h
    exact made.text s
  · dsimp only at h
    split at h
    · cases h
      show P (.dict (Assoc.ofList []))
      exact made.dict fun _ he => absurd he List.not_mem_nil
    · exact shallow.members (fun _ he => absurd he List.not_mem_nil) h
  · dsimp only at h
    split at h
    · cases h
      exact made.list fun _ hv => absurd hv List.not_mem_nil
    · exact shallow.items (fun _ hv => absurd hv List.not_mem_nil) h
  · cases h
    exact made.null
  · cases h
    exact made.bool true
  · cases h
    exact made.bool false
  · cases h
    exact made.nan
  · cases h
    exact made.infinite false
  · cases h
    exact made.infinite true
  · exact made.number h
  · exact made.number h

theorem items_succ {pos : Nat} {cs : List Char} {acc : List Value} {r : Step Value}
    (before : ∀ v ∈ acc, P v) (h : Json.items (fuel + 1) pos cs acc = .ok r) : P r.1 := by
  rw [Json.items] at h
  obtain ⟨⟨v, pos', cs'⟩, first, h⟩ := Outcome.bind_eq_ok.1 h
  have all : ∀ w ∈ v :: acc, P w := List.forall_mem_cons.2 ⟨shallow.value first, before⟩
  dsimp only at h
  split at h
  · cases h
    exact made.list fun w hw => all w (List.mem_reverse.1 hw)
  · exact shallow.items all h
  · cases h

theorem members_succ {pos : Nat} {cs : List Char} {acc : Dict} {r : Step Value}
    (before : ∀ e ∈ acc, (∃ name, e.1 = .text name) ∧ P e.2)
    (h : Json.members (fuel + 1) pos cs acc = .ok r) : P r.1 := by
  unfold Json.members at h
  split at h
  · obtain ⟨⟨name, pos', cs'⟩, -, h⟩ := Outcome.bind_eq_ok.1 h
    dsimp only at h
    split at h
    · obtain ⟨⟨v, pos'', cs''⟩, second, h⟩ := Outcome.bind_eq_ok.1 h
      have all : ∀ e ∈ (Value.text name, v) :: acc, (∃ name, e.1 = .text name) ∧ P e.2 :=
        List.forall_mem_cons.2 ⟨⟨⟨name, rfl⟩, shallow.value second⟩, before⟩
      dsimp only at h
      split at h
      · cases h
        exact made.dict fun e he => all e (List.mem_reverse.1 he)
      · exact shallow.members all h
      · cases h
    · cases h
  · cases h

end Reads

theorem reads {P : Value → Prop} (made : Made P) (fuel : Nat) : Reads P fuel := by
  induction fuel with
  | zero =>
    constructor
    · intro pos cs r h
      rw [value] at h
      cases h
    · intro pos cs acc r _ h
      rw [items] at h
      cases h
    · intro pos cs acc r _ h
      rw [members] at h
      cases h
  | succ fuel ih => exact ⟨ih.value_succ made, ih.items_succ made, ih.members_succ made⟩

/-- What a reader makes has the properties of the values it makes. -/
theorem of_read {P : Value → Prop} (made : Made P) {s : String} {v : Value} (h : read s = .ok v) :
    P v := by
  have whole : ∀ {cs}, readChars cs = .ok v → P v := by
    intro cs h
    obtain ⟨⟨v', pos, rest⟩, first, h⟩ := Outcome.bind_eq_ok.1 h
    dsimp only at h
    split at h
    · cases h
      exact (reads made _).value first
    · cases h
  unfold read at h
  split at h
  · split at h
    · cases h
    · exact whole h
  · exact whole h

/-- A reader makes of a number an integer whose digits have been counted, or a floating-point number
that comes of rounding. -/
theorem exists_of_number {start pos : Nat} {negative : Bool} {cs : List Char} {r : Step Value}
    (h : number start negative pos cs = .ok r) :
    (∃ i : Int, i.natAbs < 10 ^ Value.digitLimit ∧ r.1 = .int i) ∨
      ∃ sign n e, r.1 = .float (.ofDecimal sign n e) := by
  have counted {ds : List Char} (digits : ∀ c ∈ ds, c.isDigit = true)
      (few : ¬ ds.length > Value.digitLimit) (sign : Bool) :
      (if sign then -(digitsValue ds : Int) else digitsValue ds).natAbs < 10 ^ Value.digitLimit := by
    have bound : digitsValue ds < 10 ^ Value.digitLimit :=
      (digitsValue_lt digits).trans_le (Nat.pow_le_pow_right (by norm_num) (not_lt.1 few))
    cases sign with
    | false => exact bound
    | true =>
      show (-(digitsValue ds : Int)).natAbs < _
      rwa [Int.natAbs_neg, Int.natAbs_natCast]
  have zero : ∀ c ∈ ['0'], c.isDigit = true := by simp
  have span : ∀ c ∈ (spanDigits cs).1, c.isDigit = true :=
    List.all_eq_true.1 List.all_takeWhile
  unfold number at h
  dsimp only at h
  repeat' split at h
  all_goals cases h
  all_goals first
    | exact .inr ⟨_, _, _, rfl⟩
    | exact .inl ⟨_, counted zero ‹_› true, rfl⟩
    | exact .inl ⟨_, counted zero ‹_› false, rfl⟩
    | exact .inl ⟨_, counted span ‹_› true, rfl⟩
    | exact .inl ⟨_, counted span ‹_› false, rfl⟩

theorem named_of_number {start pos : Nat} {negative : Bool} {cs : List Char} {r : Step Value}
    (h : number start negative pos cs = .ok r) : Named r.1 := by
  rcases exists_of_number h with ⟨i, few, made⟩ | ⟨_, _, _, made⟩
  · exact made ▸ .int (isShort_of_lt few)
  · exact made ▸ .float _

theorem made_named : Made Named where
  null := .null
  bool := .bool
  text := .text
  nan := .float _
  infinite _ := .float _
  number := named_of_number
  list := .list
  dict h := .ofEntries (Assoc.forall_overlay (P := fun k => ∃ name, k = Value.text name)
    (Q := Named) (fun _ he => absurd he List.not_mem_nil) h)

theorem named_of_read {s : String} {v : Value} (h : read s = .ok v) : Named v :=
  of_read made_named h

end RouteSchema.Json
