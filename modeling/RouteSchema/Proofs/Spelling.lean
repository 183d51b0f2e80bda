import RouteSchema.Json.Reader
import RouteSchema.Json.Writer
import RouteSchema.Proofs.Shortening

/-!
# Spelling

What is written for a number or a text inside of a JSON text, and that a reader gets it back.

* `Numeral` is a number as it is spelled, with digits around a point and an exponent; `numeralOf` is
  the one that is written for a decimal.
* `number_chars`: a numeral is read as its value.
* `value_toString`, `value_floatText` and `value_writtenText`: integers, floating-point numbers and
  texts are read back, whatever follows them.
-/

namespace RouteSchema.Json

/-! ## Digits -/

theorem digitsValue_append (a b : List Char) :
    digitsValue (a ++ b) = digitsValue a * 10 ^ b.length + digitsValue b := by
  induction b using List.reverseRecOn with
  | nil => simp [digitsValue]
  | append_singleton b c ih =>
    simp only [digitsValue, List.foldl_append, List.foldl_cons, List.foldl_nil, List.length_append,
      List.length_singleton] at ih ⊢
    rw [ih]
    ring

theorem digitsValue_lt {ds : List Char} (digits : ∀ c ∈ ds, c.isDigit = true) :
    digitsValue ds < 10 ^ ds.length := by
  induction ds using List.reverseRecOn with
  | nil => simp [digitsValue]
  | append_singleton ds c ih =>
    have before := ih fun c hc => digits c (List.mem_append_left _ hc)
    have last : digitsValue [c] < 10 := by
      have range := digits c (by simp)
      rw [Char.isDigit_iff_toNat] at range
      have greatest : c.toNat ≤ 57 := range.2
      simp only [digitsValue, List.foldl_cons, List.foldl_nil]
      omega
    rw [digitsValue_append, List.length_append, List.length_singleton, pow_one, pow_succ]
    omega

theorem digitsValue_zeros (k : ℕ) : digitsValue (List.replicate k '0') = 0 := by
  induction k with
  | zero => rfl
  | succ k ih => rwa [List.replicate_succ]

theorem digitsValue_toDigits (n : ℕ) : digitsValue (Nat.toDigits 10 n) = n := by
  have step : (fun (k : ℕ) (c : Char) => k * 10 + (c.toNat - 48)) =
      fun k c => 10 * k + (c.toNat - '0'.toNat) := by
    funext k c
    rw [mul_comm]
    rfl
  rw [digitsValue, step, ← Nat.ofDigitChars_eq_foldl, Nat.ofDigitChars_ten_toDigits]

theorem isDigit_toDigits {n : ℕ} : ∀ c ∈ Nat.toDigits 10 n, c.isDigit = true :=
  fun _ hc => Nat.isDigit_of_mem_toDigits (by norm_num) (by norm_num) hc

/-- A positive number is spelled without leading zeros. -/
theorem head?_toDigits {n : ℕ} (h : 0 < n) : (Nat.toDigits 10 n).head? ≠ some '0' := by
  induction n using Nat.strongRecOn with
  | ind n ih =>
    rw [Nat.toDigits_eq_if (by norm_num)]
    split
    next small =>
      have one_digit : ∀ k < 10, 0 < k → [Nat.digitChar k].head? ≠ some '0' := by decide
      exact one_digit n small h
    next large =>
      rw [List.head?_append_of_ne_nil _ Nat.toDigits_ne_nil]
      exact ih (n / 10) (by omega) (by omega)

/-- What may follow a number: nothing that would go on with it. -/
def Stops (rest : List Char) : Prop :=
  ∀ c ∈ rest.head?, c.isDigit = false ∧ c ≠ '.' ∧ c ≠ 'e' ∧ c ≠ 'E'

theorem spanDigits_append {ds rest : List Char} (digits : ∀ c ∈ ds, c.isDigit = true)
    (stop : ∀ c ∈ rest.head?, c.isDigit = false) : spanDigits (ds ++ rest) = (ds, rest) := by
  have noMore : rest.takeWhile Char.isDigit = [] ∧ rest.dropWhile Char.isDigit = rest := by
    cases rest with
    | nil => exact ⟨rfl, rfl⟩
    | cons c rest =>
      have := stop c rfl
      simp [this]
  rw [spanDigits, List.takeWhile_append_of_pos digits, List.dropWhile_append_of_pos digits,
    noMore.1, noMore.2, List.append_nil]

/-! ## Numerals -/

/-- A number as it is spelled: the digits before and behind the point, and the exponent. -/
structure Numeral where
  whole : List Char
  places : List Char
  exponent : Option Int

namespace Numeral

/-- The characters of a numeral. Without places there is no point. -/
def chars (n : Numeral) : List Char :=
  n.whole ++ ((if n.places.isEmpty then [] else '.' :: n.places) ++
    n.exponent.elim [] fun x => (Shortest.exponentText x).toList)

/-- Digits before the point, without leading zeros, and digits behind it. -/
structure Proper (n : Numeral) : Prop where
  whole : ∀ c ∈ n.whole, c.isDigit = true
  some_whole : n.whole ≠ []
  leading : n.whole = ['0'] ∨ n.whole.head? ≠ some '0'
  places : ∀ c ∈ n.places, c.isDigit = true

/-- The floating-point number of a numeral. -/
def float (negative : Bool) (n : Numeral) : Binary64 :=
  .ofDecimal negative (digitsValue (n.whole ++ n.places)) (n.exponent.getD 0 - n.places.length)

end Numeral

/-- The digits before the point end where no digit follows; after a leading zero they end at once. -/
def Begins (whole rest cs : List Char) : Prop :=
  (whole = ['0'] ∧ cs = '0' :: rest) ∨
    (whole ≠ [] ∧ cs.head? ≠ some '0' ∧ spanDigits cs = (whole, rest))

theorem Numeral.Proper.begins {n : Numeral} (proper : n.Proper) {rest : List Char}
    (stop : ∀ c ∈ rest.head?, c.isDigit = false) : Begins n.whole rest (n.whole ++ rest) := by
  rcases proper.leading with zero | other
  · exact .inl ⟨zero, by rw [zero]; rfl⟩
  · refine .inr ⟨proper.some_whole, ?_, spanDigits_append proper.whole stop⟩
    rwa [List.head?_append_of_ne_nil _ proper.some_whole]

/-- An exponent is a letter, a sign and digits. -/
theorem exponentText_toList (x : Int) :
    ∃ ds : List Char, ds ≠ [] ∧ (∀ c ∈ ds, c.isDigit = true) ∧ digitsValue ds = x.natAbs ∧
      (Shortest.exponentText x).toList = 'e' :: (if x < 0 then '-' else '+') :: ds := by
  obtain ⟨n, hn⟩ : ∃ n, n = toString x.natAbs := ⟨_, rfl⟩
  have digits : n.toList = Nat.toDigits 10 x.natAbs := by
    rw [hn, Nat.toString_eq_ofList_toDigits, String.toList_ofList]
  refine ⟨if n.length < 2 then '0' :: n.toList else n.toList, ?_, ?_, ?_, ?_⟩
  · split
    · exact List.cons_ne_nil _ _
    · rw [digits]
      exact Nat.toDigits_ne_nil
  · intro c hc
    rw [digits] at hc
    split at hc
    · rcases List.mem_cons.1 hc with rfl | hc
      · decide
      · exact isDigit_toDigits c hc
    · exact isDigit_toDigits c hc
  · rw [digits]
    split
    · rw [show '0' :: Nat.toDigits 10 x.natAbs = ['0'] ++ Nat.toDigits 10 x.natAbs from rfl,
        digitsValue_append, digitsValue_toDigits]
      show 0 * _ + _ = _
      rw [zero_mul, zero_add]
    · exact digitsValue_toDigits _
  · simp only [Shortest.exponentText, ← hn]
    split_ifs <;> simp

theorem exponent?_append (x : Int) {rest : List Char} (stop : ∀ c ∈ rest.head?, c.isDigit = false) :
    ∃ k, exponent? ((Shortest.exponentText x).toList ++ rest) = some (x, k, rest) := by
  obtain ⟨ds, some_digits, digits, value, chars⟩ := exponentText_toList x
  rw [chars]
  have span := spanDigits_append digits stop
  by_cases negative : x < 0
  · refine ⟨1 + 1 + ds.length, ?_⟩
    simp only [if_pos negative, List.cons_append, exponent?, span, value]
    simp [some_digits, abs_of_neg negative]
  · refine ⟨1 + 1 + ds.length, ?_⟩
    simp only [if_neg negative, List.cons_append, exponent?, span, value]
    simp [some_digits, abs_of_nonneg (not_lt.1 negative)]

theorem exponent?_of_stops {rest : List Char} (stops : Stops rest) : exponent? rest = none := by
  cases rest with
  | nil => rfl
  | cons c rest =>
    obtain ⟨-, -, small, large⟩ := stops c rfl
    simp [exponent?, small, large]

/-- A point with places behind it is read up to the exponent. -/
theorem fraction?_append {places rest : List Char} (digits : ∀ c ∈ places, c.isDigit = true)
    (some_places : places ≠ []) (stop : ∀ c ∈ rest.head?, c.isDigit = false) :
    fraction? ('.' :: places ++ rest) = some (places, rest) := by
  rw [List.cons_append, fraction?, spanDigits_append digits stop]
  simp [some_places]

theorem fraction?_of_ne {rest : List Char} (other : ∀ c ∈ rest.head?, c ≠ '.') :
    fraction? rest = none := by
  unfold fraction?
  split
  next => exact absurd rfl (other '.' rfl)
  next => rfl

/-- Places are read where there is a point. -/
def Goes (places after rest : List Char) : Prop :=
  (places = [] ∧ after = rest ∧ fraction? rest = none) ∨
    (places ≠ [] ∧ fraction? rest = some (places, after))

/-- An exponent is read where there is one. -/
def Closes (exponent : Option Int) (final after : List Char) : Prop :=
  (exponent = none ∧ final = after ∧ exponent? after = none) ∨
    ∃ x k, exponent = some x ∧ exponent? after = some (x, k, final)

/-- What follows the places of a numeral is no digit and no point. -/
theorem head_of_exponent (exponent : Option Int) {rest : List Char} (stops : Stops rest) :
    ∀ c ∈ (exponent.elim [] (fun x => (Shortest.exponentText x).toList) ++ rest).head?,
      c.isDigit = false ∧ c ≠ '.' := by
  cases exponent with
  | none => exact fun c hc => ⟨(stops c hc).1, (stops c hc).2.1⟩
  | some x =>
    obtain ⟨ds, -, -, -, chars⟩ := exponentText_toList x
    intro c hc
    rw [Option.elim_some, chars] at hc
    cases hc
    decide

section

variable {n : Numeral} {rest : List Char}

/-- The characters of a proper numeral are told apart. -/
theorem Numeral.Proper.parts (proper : n.Proper) (stops : Stops rest) :
    ∃ after' after, Begins n.whole after' (n.chars ++ rest) ∧ Goes n.places after after' ∧
      Closes n.exponent rest after := by
  obtain ⟨after, hafter⟩ : ∃ a, a = n.exponent.elim [] (fun x => (Shortest.exponentText x).toList)
    ++ rest := ⟨_, rfl⟩
  have next := hafter ▸ head_of_exponent n.exponent stops
  refine ⟨(if n.places.isEmpty then [] else '.' :: n.places) ++ after, after, ?_, ?_, ?_⟩
  · rw [Numeral.chars, List.append_assoc, List.append_assoc, ← hafter]
    refine proper.begins ?_
    split
    · exact fun c hc => (next c hc).1
    · rintro c ⟨⟩
      decide
  · by_cases none : n.places = []
    · rw [none]
      exact .inl ⟨rfl, rfl, fraction?_of_ne fun c hc => (next c hc).2⟩
    · rw [if_neg (by simpa using none)]
      exact .inr ⟨none, fraction?_append proper.places none fun c hc => (next c hc).1⟩
  · rw [hafter]
    cases n.exponent with
    | none => exact .inl ⟨rfl, rfl, exponent?_of_stops stops⟩
    | some x =>
      obtain ⟨k, hk⟩ := exponent?_append x fun c hc => (stops c hc).1
      exact .inr ⟨x, k, rfl, hk⟩

/-- The value of a numeral: without a point and an exponent it is an integer. -/
def Numeral.value (negative : Bool) (n : Numeral) : Value :=
  if n.places = [] ∧ n.exponent = none then
    .int (if negative then -(digitsValue n.whole : Int) else digitsValue n.whole)
  else .float (n.float negative)

/-- What is read of the parts of a numeral. -/
theorem number_of_parts {cs after after' : List Char} (begins : Begins n.whole after' cs)
    (goes : Goes n.places after after') (closes : Closes n.exponent rest after)
    (few : n.places = [] ∧ n.exponent = none → n.whole.length ≤ Value.digitLimit) (start pos : ℕ)
    (negative : Bool) :
    ∃ pos', number start negative pos cs = .ok (n.value negative, pos', rest) := by
  obtain ⟨whole, places, exponent⟩ := n
  simp only at begins goes closes few
  rcases begins with ⟨rfl, rfl⟩ | ⟨some_whole, other, span⟩
  · rcases goes with ⟨rfl, rfl, noPoint⟩ | ⟨some_places, point⟩
    · rcases closes with ⟨rfl, rfl, noPower⟩ | ⟨x, k, rfl, power⟩
      · simp [number, Numeral.value, noPoint, noPower, Value.digitLimit]
      · simp [number, Numeral.value, Numeral.float, noPoint, power]
    · rcases closes with ⟨rfl, rfl, noPower⟩ | ⟨x, k, rfl, power⟩
      · simp [number, Numeral.value, Numeral.float, some_places, point, noPower]
      · simp [number, Numeral.value, Numeral.float, some_places, point, power]
  · have noZero : ∀ rest, cs = '0' :: rest → False := by
      rintro _ rfl
      exact other rfl
    rw [number.eq_2 _ _ _ _ noZero, span]
    rcases goes with ⟨rfl, rfl, noPoint⟩ | ⟨some_places, point⟩
    · rcases closes with ⟨rfl, rfl, noPower⟩ | ⟨x, k, rfl, power⟩
      · have fits : ¬ Value.digitLimit < whole.length := not_lt.2 (few ⟨rfl, rfl⟩)
        simp [Numeral.value, some_whole, noPoint, noPower, fits]
      · simp [Numeral.value, Numeral.float, some_whole, noPoint, power]
    · rcases closes with ⟨rfl, rfl, noPower⟩ | ⟨x, k, rfl, power⟩
      · simp [Numeral.value, Numeral.float, some_whole, some_places, point, noPower]
      · simp [Numeral.value, Numeral.float, some_whole, some_places, point, power]

/-- A numeral is read as its value. -/
theorem number_chars (proper : n.Proper) (stops : Stops rest)
    (few : n.places = [] ∧ n.exponent = none → n.whole.length ≤ Value.digitLimit) (start pos : ℕ)
    (negative : Bool) :
    ∃ pos', number start negative pos (n.chars ++ rest) = .ok (n.value negative, pos', rest) := by
  obtain ⟨after', after, begins, goes, closes⟩ := proper.parts stops
  exact number_of_parts begins goes closes few start pos negative

end

/-! ## Decimals -/

/-- The numeral that is written for a decimal. -/
def numeralOf (d : Shortest.Decimal) : Numeral :=
  let ds := Nat.toDigits 10 d.digits
  let point : Int := ds.length + d.power
  if -3 ≤ point ∧ point ≤ 16 then
    if point ≤ 0 then ⟨['0'], List.replicate (-point).toNat '0' ++ ds, none⟩
    else if point < ds.length then ⟨ds.take point.toNat, ds.drop point.toNat, none⟩
    else ⟨ds ++ List.replicate (point - ds.length).toNat '0', ['0'], none⟩
  else ⟨ds.take 1, ds.drop 1, some (point - 1)⟩

theorem toList_decimalText (d : Shortest.Decimal) :
    (Shortest.Layout.json.decimalText d).toList = (numeralOf d).chars := by
  have digits : (toString d.digits).toList = Nat.toDigits 10 d.digits := by
    rw [Nat.toString_eq_ofList_toDigits, String.toList_ofList]
  have count : (toString d.digits).length = (Nat.toDigits 10 d.digits).length := by
    rw [← digits, String.length_toList]
  have some_digits : Nat.toDigits 10 d.digits ≠ [] := Nat.toDigits_ne_nil
  simp only [Shortest.Layout.decimalText, Shortest.Layout.json, numeralOf, count, digits]
  generalize spelled : Nat.toDigits 10 d.digits = ds at some_digits ⊢
  split_ifs with inside small among single
  · simp [Numeral.chars, Shortest.zeros, spelled, some_digits]
  · have some_places : ds.drop (ds.length + d.power).toNat ≠ [] := by
      rw [Ne, List.drop_eq_nil_iff]
      omega
    simp [Numeral.chars, some_places]
  · simp [Numeral.chars, Shortest.zeros, spelled]
  · have one : ds.length ≤ 1 := single
    simp [Numeral.chars, spelled, List.take_of_length_le one, List.drop_of_length_le one]
  · have some_places : ds.tail ≠ [] := by
      rw [← List.drop_one, Ne, List.drop_eq_nil_iff]
      exact single
    simp [Numeral.chars, some_places]

theorem proper_numeralOf {d : Shortest.Decimal} (h : 0 < d.digits) : (numeralOf d).Proper := by
  have digits := isDigit_toDigits (n := d.digits)
  have leading := head?_toDigits h
  have some_digits : Nat.toDigits 10 d.digits ≠ [] := Nat.toDigits_ne_nil
  have zeros {k : ℕ} : ∀ c ∈ List.replicate k '0', c.isDigit = true := by
    intro c hc
    rw [List.eq_of_mem_replicate hc]
    rfl
  have head_take {k : ℕ} (hk : 0 < k) :
      ((Nat.toDigits 10 d.digits).take k).head? ≠ some '0' := by
    rwa [List.head?_take, if_neg hk.ne']
  have some_take {k : ℕ} (hk : 0 < k) : (Nat.toDigits 10 d.digits).take k ≠ [] := by
    simp [some_digits, hk.ne']
  simp only [numeralOf]
  split_ifs with inside small among
  · exact ⟨by simp, by simp, .inl rfl, List.forall_mem_append.2 ⟨zeros, digits⟩⟩
  · have hk : 0 < ((Nat.toDigits 10 d.digits).length + d.power).toNat := by omega
    exact ⟨fun c hc => digits c (List.mem_of_mem_take hc), some_take hk, .inr (head_take hk),
      fun c hc => digits c (List.mem_of_mem_drop hc)⟩
  · refine ⟨List.forall_mem_append.2 ⟨digits, zeros⟩, by simp [some_digits], .inr ?_, by simp⟩
    rwa [List.head?_append_of_ne_nil _ some_digits]
  · exact ⟨fun c hc => digits c (List.mem_of_mem_take hc), some_take one_pos,
      .inr (head_take one_pos), fun c hc => digits c (List.mem_of_mem_drop hc)⟩

/-- A numeral of a decimal has a point or an exponent. -/
theorem marked_numeralOf (d : Shortest.Decimal) :
    ¬ ((numeralOf d).places = [] ∧ (numeralOf d).exponent = none) := by
  have some_digits : Nat.toDigits 10 d.digits ≠ [] := Nat.toDigits_ne_nil
  simp only [numeralOf]
  split_ifs
  · simp [some_digits]
  · simp
    omega
  · simp
  · simp

/-- The numeral of a decimal has its digits, possibly with zeros behind them. -/
theorem digitsValue_numeralOf (d : Shortest.Decimal) :
    ∃ k : ℕ, k ≤ 16 ∧ digitsValue ((numeralOf d).whole ++ (numeralOf d).places) = d.digits * 10 ^ k ∧
      (numeralOf d).exponent.getD 0 - (numeralOf d).places.length = d.power - k := by
  have value := digitsValue_toDigits d.digits
  have length := Nat.length_toDigits_pos (b := 10) (n := d.digits)
  simp only [numeralOf]
  split_ifs with inside small among
  · refine ⟨0, by omega, ?_, ?_⟩
    · rw [digitsValue_append, digitsValue_append, digitsValue_zeros, value]
      simp [digitsValue]
    · simp
      omega
  · refine ⟨0, by omega, ?_, ?_⟩
    · rw [List.take_append_drop, value, pow_zero, mul_one]
    · simp
      omega
  · obtain ⟨k, hk⟩ : ∃ k : ℕ, d.power = k := ⟨d.power.toNat, by omega⟩
    have zeros : ((Nat.toDigits 10 d.digits).length + d.power -
        (Nat.toDigits 10 d.digits).length : ℤ).toNat = k := by omega
    refine ⟨k + 1, by omega, ?_, ?_⟩
    · rw [digitsValue_append, digitsValue_append, zeros, value, digitsValue_zeros,
        List.length_replicate, pow_succ]
      simp [digitsValue]
      ring
    · simp
      omega
  · refine ⟨0, by omega, ?_, ?_⟩
    · rw [List.take_append_drop, value, pow_zero, mul_one]
    · simp
      omega

/-! ## Numbers -/

section

variable {negative : Bool} {m : ℕ} {e : ℤ}

/-- The numeral of the shortest decimal of a number stands for that number. -/
theorem float_numeralOf_digits (canonical : Binary64.Canonical (.finite negative m e)) (hm : 0 < m) :
    (numeralOf (Shortest.digits m e)).float negative = .finite negative m e := by
  obtain ⟨holds, short⟩ := Shortest.digits_holds hm canonical.1 canonical.2.1 canonical.2.2.1
  obtain ⟨k, few, value, power⟩ := digitsValue_numeralOf (Shortest.digits m e)
  rw [Numeral.float, value, power]
  refine Binary64.ofDecimal_of_holds canonical hm ?_ ?_
  · rw [Binary64.bitLength_le_iff] at short ⊢
    calc (Shortest.digits m e).digits * 10 ^ k
        < 2 ^ 100 * 10 ^ 16 := Nat.mul_lt_mul_of_lt_of_le short
          (Nat.pow_le_pow_right (by norm_num) few) (by positivity)
      _ < 2 ^ 154 := by norm_num
      _ ≤ 2 ^ 200 := Nat.pow_le_pow_right (by norm_num) (by norm_num)
  · have same : (((Shortest.digits m e).digits * 10 ^ k : ℕ) : ℚ) *
        10 ^ ((Shortest.digits m e).power - k) =
        (Shortest.digits m e).digits * 10 ^ (Shortest.digits m e).power := by
      rw [zpow_sub₀ (by norm_num), zpow_natCast]
      push_cast
      field_simp
    rwa [same]

theorem digits_pos (canonical : Binary64.Canonical (.finite negative m e)) (hm : 0 < m) :
    0 < (Shortest.digits m e).digits := by
  obtain ⟨holds, -⟩ := Shortest.digits_holds hm canonical.1 canonical.2.1 canonical.2.2.1
  obtain ⟨lower, -⟩ := holds.within_half hm
  have hm' : (1 : ℚ) ≤ m := by exact_mod_cast hm
  by_contra none
  rw [Nat.eq_zero_of_not_pos none, Nat.cast_zero, zero_mul, zero_div] at lower
  linarith

end

section

variable {n : Numeral} {rest : List Char}

theorem value_digit (fuel pos : ℕ) {c : Char} (h : c.isDigit = true) (cs : List Char) :
    value (fuel + 1) pos (c :: cs) = number pos false pos (c :: cs) := by
  unfold value
  split
  case h_11 => rfl
  all_goals
    next same =>
      cases same
      cases h

theorem value_minus (fuel pos : ℕ) {c : Char} (h : c.isDigit = true) (cs : List Char) :
    value (fuel + 1) pos ('-' :: c :: cs) = number pos true (pos + 1) (c :: cs) := by
  have other : c ≠ 'I' := by
    rintro rfl
    cases h
  simp [value, other]

theorem Numeral.Proper.exists_chars (proper : n.Proper) :
    ∃ c cs, n.chars = c :: cs ∧ c.isDigit = true := by
  obtain ⟨c, cs, whole⟩ := List.exists_cons_of_ne_nil proper.some_whole
  have digit : c.isDigit = true := proper.whole c (whole ▸ List.mem_cons_self)
  rw [Numeral.chars, whole]
  exact ⟨c, _, rfl, digit⟩

/-- The characters of a numeral behind its sign are read as its value. -/
theorem value_chars (proper : n.Proper) (stops : Stops rest)
    (few : n.places = [] ∧ n.exponent = none → n.whole.length ≤ Value.digitLimit) (fuel pos : ℕ)
    (negative : Bool) :
    ∃ pos', value (fuel + 1) pos ((if negative then ['-'] else []) ++ n.chars ++ rest) =
      .ok (n.value negative, pos', rest) := by
  have read := number_chars proper stops few
  obtain ⟨c, cs, chars, digit⟩ := proper.exists_chars
  rw [chars] at read ⊢
  cases negative with
  | false =>
    show ∃ pos', value (fuel + 1) pos (c :: (cs ++ rest)) = _
    rw [value_digit fuel pos digit]
    exact read pos pos false
  | true =>
    show ∃ pos', value (fuel + 1) pos ('-' :: c :: (cs ++ rest)) = _
    rw [value_minus fuel pos digit]
    exact read pos (pos + 1) true

theorem isShort_of_lt {i : Int} (few : i.natAbs < 10 ^ Value.digitLimit) :
    Value.isShort i = true := by
  rw [Value.isShort_iff]
  -- the limit is kept from being computed with
  generalize Value.digitLimit = n at few ⊢
  exact few

/-- An integer is read back, unless it has too many digits. -/
theorem value_toString {i : Int} (few : i.natAbs < 10 ^ Value.digitLimit) (stops : Stops rest)
    (fuel pos : ℕ) :
    ∃ pos', value (fuel + 1) pos ((toString i).toList ++ rest) = .ok (.int i, pos', rest) := by
  have proper : Numeral.Proper ⟨Nat.toDigits 10 i.natAbs, [], none⟩ := by
    refine ⟨isDigit_toDigits, Nat.toDigits_ne_nil, ?_, by simp⟩
    rcases Nat.eq_zero_or_pos i.natAbs with zero | pos
    · exact .inl (by rw [zero, Nat.toDigits_zero])
    · exact .inr (head?_toDigits pos)
  have short : (Nat.toDigits 10 i.natAbs).length ≤ Value.digitLimit :=
    (Nat.length_toDigits_le_iff (by norm_num) (by decide)).2 few
  have chars : (toString i).toList = (if decide (i < 0) then ['-'] else []) ++
      Numeral.chars ⟨Nat.toDigits 10 i.natAbs, [], none⟩ := by
    rw [Int.toString_eq_repr]
    cases i with
    | ofNat k => simp [Int.repr, Numeral.chars, Nat.repr_eq_ofList_toDigits]
    | negSucc k => simp [Int.repr, Numeral.chars, Nat.repr_eq_ofList_toDigits]
  have same : Numeral.value (decide (i < 0)) ⟨Nat.toDigits 10 i.natAbs, [], none⟩ = .int i := by
    rw [Numeral.value, if_pos ⟨rfl, rfl⟩, digitsValue_toDigits]
    by_cases negative : i < 0
    · simp [negative, abs_of_neg negative]
    · simp [negative, abs_of_nonneg (not_lt.1 negative)]
  rw [chars, ← same]
  exact value_chars proper stops (fun _ => short) fuel pos (decide (i < 0))

/-- A floating-point number is read back, unless it is none of the format. -/
theorem value_floatText {x : Binary64} (canonical : x.Canonical) (stops : Stops rest)
    (fuel pos : ℕ) :
    ∃ pos', value (fuel + 1) pos ((floatText x).toList ++ rest) = .ok (.float x, pos', rest) := by
  rw [floatText]
  cases x with
  | nan => exact ⟨pos + 3, by simp [value, Shortest.Layout.text, Shortest.Layout.json]⟩
  | infinite negative =>
    cases negative with
    | false => exact ⟨pos + 8, by simp [value, Shortest.Layout.text, Shortest.Layout.json]⟩
    | true => exact ⟨pos + 9, by simp [value, Shortest.Layout.text, Shortest.Layout.json]⟩
  | finite negative m e =>
    rw [Shortest.Layout.text, String.toList_append]
    have sign : (if negative then "-" else "").toList = if negative then ['-'] else [] := by
      cases negative <;> rfl
    rcases Nat.eq_zero_or_pos m with rfl | hm
    · have least : e = Binary64.leastExponent :=
        canonical.2.2.2.resolve_right (by rw [Binary64.one_shiftLeft_precision_pred]; norm_num)
      have proper : Numeral.Proper ⟨['0'], ['0'], none⟩ :=
        ⟨by simp, by simp, .inl rfl, by simp⟩
      have same : Numeral.value negative ⟨['0'], ['0'], none⟩ =
          .float (.finite negative 0 e) := by
        rw [least]
        rfl
      rw [sign, if_pos rfl, ← same]
      exact value_chars proper stops (by simp) fuel pos negative
    · have same : (numeralOf (Shortest.digits m e)).value negative =
          .float (.finite negative m e) := by
        rw [Numeral.value, if_neg (marked_numeralOf _), float_numeralOf_digits canonical hm]
      rw [sign, if_neg hm.ne', toList_decimalText, ← same]
      exact value_chars (proper_numeralOf (digits_pos canonical hm)) stops
        (fun h => absurd h (marked_numeralOf _)) fuel pos negative

end

/-! ## Texts -/

section

variable {start pos : ℕ} {c : Char} {cs acc : List Char}

theorem text_quote : text start pos ('"' :: cs) acc = .ok (String.ofList acc.reverse, pos + 1, cs) := by
  rw [text]

theorem text_plain (quote : c ≠ '"') (slash : c ≠ '\\') (printable : 0x20 ≤ c.toNat) :
    text start pos (c :: cs) acc = text start (pos + 1) cs (c :: acc) := by
  rw [text, if_neg (not_lt.2 printable)]
  all_goals simp [quote, slash]

theorem text_short {ch : Char} (h : shortEscape? c = some ch) :
    text start pos ('\\' :: c :: cs) acc = text start (pos + 2) cs (ch :: acc) := by
  have other : c ≠ 'u' := by
    rintro rfl
    cases h
  rw [text]
  · simp [other, h]
  · simp [other]

theorem text_unit {a b d e f : Char} {u : ℕ} (h : hex4? a b d e = some u) (low : u < 0xd800) :
    text start pos ('\\' :: 'u' :: a :: b :: d :: e :: f :: cs) acc =
      text start (pos + 6) (f :: cs) (unitChar u :: acc) := by
  have single : lowHalf? u f cs = .ok none := by
    unfold lowHalf?
    split
    · rw [if_neg (by simp; omega)]
    · rfl
  rw [text, h]
  simp [single]

/-- The escape of a control character has two zeros and two digits. -/
theorem toList_unitEscape {n : ℕ} (h : n < 0x20) :
    (unitEscape n).toList = ['\\', 'u', '0', '0', Nat.digitChar (n / 16), Nat.digitChar (n % 16)] ∧
      hex4? '0' '0' (Nat.digitChar (n / 16)) (Nat.digitChar (n % 16)) = some n := by
  have digits : ∀ n < 0x20, List.replicate (4 - (Nat.toDigits 16 n).length) '0' ++ Nat.toDigits 16 n =
      ['0', '0', Nat.digitChar (n / 16), Nat.digitChar (n % 16)] ∧
      hex4? '0' '0' (Nat.digitChar (n / 16)) (Nat.digitChar (n % 16)) = some n := by decide
  refine ⟨?_, (digits n h).2⟩
  simp [unitEscape, Text.hexDigits, (digits n h).1]

/-- A character is read back from what is written for it, as long as something follows. -/
theorem text_writtenChar (start pos : ℕ) (acc : List Char) (c : Char) (some_more : cs ≠ []) :
    ∃ pos', text start pos ((writtenChar false c).toList ++ cs) acc =
      text start pos' cs (c :: acc) := by
  have escaped (e : Char) (h : shortEscape? e = some c) :
      ∃ pos', text start pos (['\\', e] ++ cs) acc = text start pos' cs (c :: acc) :=
    ⟨pos + 2, text_short h⟩
  simp only [writtenChar, beq_iff_eq, Bool.false_and, Bool.false_eq_true, if_false]
  split_ifs with quote slash feed ret tab back form control
  · exact escaped '"' (by rw [quote]; rfl)
  · exact escaped '\\' (by rw [slash]; rfl)
  · exact escaped 'n' (by rw [feed]; rfl)
  · exact escaped 'r' (by rw [ret]; rfl)
  · exact escaped 't' (by rw [tab]; rfl)
  · exact escaped 'b' (by rw [back]; rfl)
  · exact escaped 'f' (by rw [form]; rfl)
  · obtain ⟨f, cs, rfl⟩ := List.exists_cons_of_ne_nil some_more
    obtain ⟨chars, hex⟩ := toList_unitEscape control
    have same : unitChar c.toNat = c := by
      have valid : c.toNat.isValidChar := c.valid
      rw [unitChar, if_pos valid, Char.ofNat_toNat]
    refine ⟨pos + 6, ?_⟩
    rw [chars]
    exact (text_unit hex (by omega)).trans (by rw [same])
  · refine ⟨pos + 1, ?_⟩
    rw [String.toList_singleton]
    exact text_plain quote slash (not_lt.1 control)

/-- The rest of a text is read back up to its closing quote. -/
theorem text_writtenChars (s rest acc : List Char) (start pos : ℕ) :
    ∃ pos', text start pos (s.flatMap (fun c => (writtenChar false c).toList) ++ '"' :: rest) acc =
      .ok (String.ofList (acc.reverse ++ s), pos', rest) := by
  induction s generalizing acc pos with
  | nil => exact ⟨pos + 1, by rw [List.append_nil]; exact text_quote⟩
  | cons c s ih =>
    rw [List.flatMap_cons, List.append_assoc]
    obtain ⟨pos', first⟩ := text_writtenChar start pos acc c
      (List.append_ne_nil_of_right_ne_nil _ (List.cons_ne_nil '"' rest))
    obtain ⟨pos'', others⟩ := ih (c :: acc) pos'
    refine ⟨pos'', ?_⟩
    rw [first, others, List.reverse_cons, List.append_assoc, List.singleton_append]

end

theorem toList_writtenText (s : String) : (writtenText false s).toList =
    '"' :: (s.toList.flatMap (fun c => (writtenChar false c).toList) ++ ['"']) := by
  simp [writtenText, List.flatMap_map]

/-- A text is read back. -/
theorem text_writtenText (s : String) (rest : List Char) (start pos : ℕ) :
    ∃ cs pos', (writtenText false s).toList ++ rest = '"' :: cs ∧
      text start pos cs [] = .ok (s, pos', rest) := by
  obtain ⟨pos', read⟩ := text_writtenChars s.toList rest [] start pos
  refine ⟨_, pos', by rw [toList_writtenText, List.cons_append, List.append_assoc], ?_⟩
  rw [List.singleton_append, read, List.reverse_nil, List.nil_append, String.ofList_toList]

theorem value_writtenText (s : String) (rest : List Char) (fuel pos : ℕ) :
    ∃ pos', value (fuel + 1) pos ((writtenText false s).toList ++ rest) =
      .ok (.text s, pos', rest) := by
  obtain ⟨cs, pos', chars, read⟩ := text_writtenText s rest pos (pos + 1)
  refine ⟨pos', ?_⟩
  rw [chars, value, read]
  rfl

end RouteSchema.Json
