import Mathlib.Data.List.DropRight
import RouteSchema.Cli.Pairs
import RouteSchema.Proofs.Sequencing

/-!
# Pairs that items write

The items of a command line write pairs of a key and a value. The first separator of an item divides
it. Blanks around the key do not count, nor those around the value where a colon divides. Of the
items with one key, the first says where the key stands and the last what its value is.

* `Text.Trimmed` says what a text is without the blanks at its ends: `Text.strip_eq_iff`.
* `Divided` says where an item is divided, and `Writes` which pair it writes: `pair_eq_ok_iff`.
* `Gathers` says what a mapping keeps of entries: `gathers_iff`.
* `read_gathers`: what items come to, and which of them is to blame if they are refused.
-/

namespace RouteSchema

namespace Text

/-- A text without the blanks at its ends: nothing but blanks is taken away, and none is left at an
end. -/
structure Trimmed (s t : String) : Prop where
  around : ∃ front back, s.toList = front ++ t.toList ++ back ∧
    (∀ c ∈ front, isBlank c = true) ∧ ∀ c ∈ back, isBlank c = true
  first : ∀ c ∈ t.toList.head?, isBlank c = false
  last : ∀ c ∈ t.toList.getLast?, isBlank c = false

/-! ## Trimming -/

theorem trimmed_strip (s : String) : Trimmed s (strip s) := by
  let core := s.toList.dropWhile isBlank
  have kept : (strip s).toList = core.rdropWhile isBlank := String.toList_ofList
  have whole : core.rdropWhile isBlank ++ core.rtakeWhile isBlank = core :=
    List.rdropWhile_append_rtakeWhile
  refine ⟨⟨s.toList.takeWhile isBlank, core.rtakeWhile isBlank, ?_,
    fun _ => List.mem_takeWhile_imp, fun _ => List.mem_rtakeWhile_imp⟩, ?_, ?_⟩
  · rw [kept, List.append_assoc, whole, List.takeWhile_append_dropWhile]
  · intro c hc
    -- trimming the end keeps the first character, which `dropWhile` has left
    obtain ⟨rest, begins⟩ := List.head?_eq_some_iff.1 hc
    have left := List.head?_dropWhile_not isBlank s.toList
    rw [show s.toList.dropWhile isBlank = core from rfl, ← whole, ← kept, begins] at left
    exact left
  · intro c hc
    rw [kept] at hc
    obtain ⟨filled, rfl⟩ := List.mem_getLast?_eq_getLast hc
    exact Bool.eq_false_iff.2 (List.rdropWhile_last_not isBlank core filled)

theorem dropEndWhile_append_of_blank (cs : List Char) {back : List Char}
    (blank : ∀ c ∈ back, isBlank c = true) :
    dropEndWhile isBlank (cs ++ back) = dropEndWhile isBlank cs := by
  have reversed : ∀ c ∈ back.reverse, isBlank c = true := fun c hc =>
    blank c (List.mem_reverse.1 hc)
  rw [dropEndWhile, List.reverse_append, List.dropWhile_append_of_pos reversed, dropEndWhile]

theorem dropEndWhile_of_last {cs : List Char} (full : ∀ c ∈ cs.getLast?, isBlank c = false) :
    dropEndWhile isBlank cs = cs := by
  refine List.rdropWhile_eq_self_iff.2 fun filled => ?_
  exact Bool.eq_false_iff.1 (full _ (List.getLast?_eq_some_getLast filled))

/-- What a text is without the blanks at its ends is determined. -/
theorem Trimmed.strip_eq {s t : String} (h : Trimmed s t) : strip s = t := by
  obtain ⟨front, back, whole, before, behind⟩ := h.around
  rw [← String.toList_inj, strip, String.toList_ofList, trimWhile, whole, List.append_assoc,
    List.dropWhile_append_of_pos before]
  by_cases empty : t.toList = []
  · rw [empty, List.nil_append, List.dropWhile_eq_nil_iff.2 behind]
    rfl
  · obtain ⟨c, cs, begins⟩ := List.exists_cons_of_ne_nil empty
    have first : ¬isBlank c = true := Bool.eq_false_iff.1 (h.first c (by rw [begins]; rfl))
    have kept : (t.toList ++ back).dropWhile isBlank = t.toList ++ back := by
      rw [begins, List.cons_append, List.dropWhile_cons_of_neg first]
    rw [kept, dropEndWhile_append_of_blank t.toList behind, dropEndWhile_of_last h.last]

theorem strip_eq_iff {s t : String} : strip s = t ↔ Trimmed s t :=
  ⟨fun h => h ▸ trimmed_strip s, Trimmed.strip_eq⟩

/-- Nothing is left of blanks, and only of them. -/
theorem strip_eq_empty_iff {s : String} : strip s = "" ↔ isBlankText s = true := by
  rw [strip_eq_iff, isBlankText, List.all_eq_true]
  constructor
  · rintro ⟨⟨front, back, whole, before, behind⟩, -, -⟩ c hc
    rw [whole, String.toList_empty, List.append_nil] at hc
    exact (List.mem_append.1 hc).elim (before c) (behind c)
  · intro blank
    exact ⟨⟨s.toList, [], by simp, blank, nofun⟩, nofun, nofun⟩

end Text

namespace Cli.Pairs

/-- An item is divided at its first separator, with more than blanks before it. -/
structure Divided (c : Char) (item before after : String) : Prop where
  whole : item.toList = before.toList ++ c :: after.toList
  first : c ∉ before.toList
  named : Text.isBlankText before = false

/-- An item that can be divided. -/
def IsPair (c : Char) (item : String) : Prop := ∃ before after, Divided c item before after

/-- The pair that an item writes: its key is what stands before the first separator, without the
blanks around it, and its value all that follows, without the blanks around it where a colon
divides. -/
def Writes (c : Char) (item : String) (e : String × String) : Prop :=
  ∃ before after, Divided c item before after ∧ Text.Trimmed before e.1 ∧
    if c = ':' then Text.Trimmed after e.2 else e.2 = after

/-- What a mapping keeps of entries: each key once, where the first entry with it stands, and with
the value of the last one. -/
structure Gathers (es m : Assoc String String) : Prop where
  keys : m.keys = es.keys.eraseDups
  values : ∀ key value, (key, value) ∈ m ↔
    ∃ before after, es = before ++ (key, value) :: after ∧ key ∉ Assoc.keys after

/-- The first item that cannot be divided, whatever follows it. -/
def FirstRefused (c : Char) (items : List String) (item : String) : Prop :=
  ∃ before after, items = before ++ item :: after ∧ (∀ i ∈ before, IsPair c i) ∧ ¬IsPair c item

/-! ## Dividing an item -/

section

variable {c : Char} {before after : List Char}

theorem divide?_append (free : c ∉ before) :
    divide? [c] (before ++ c :: after) = some (before, after) := by
  induction before with
  | nil => simp [divide?]
  | cons d before ih =>
    obtain ⟨other, free⟩ := not_or.1 (mt List.mem_cons.2 free)
    rw [List.cons_append, divide?, ih free]
    simp [other]

theorem divide?_of_free (free : c ∉ before) : divide? [c] before = none := by
  induction before with
  | nil => rfl
  | cons d before ih =>
    obtain ⟨other, free⟩ := not_or.1 (mt List.mem_cons.2 free)
    rw [divide?, ih free]
    simp [other]

/-- A text is divided at the first separator in it. -/
theorem divide?_eq_some_iff {cs : List Char} :
    divide? [c] cs = some (before, after) ↔ cs = before ++ c :: after ∧ c ∉ before := by
  constructor
  · intro h
    by_cases separated : c ∈ cs
    · obtain ⟨before', after', rfl, free⟩ := List.eq_append_cons_of_mem separated
      rw [divide?_append free] at h
      cases h
      exact ⟨rfl, free⟩
    · rw [divide?_of_free separated] at h
      cases h
  · rintro ⟨rfl, free⟩
    exact divide?_append free

end

/-! ## One item -/

section

variable {c : Char} {flag item : String}

theorem singleton_beq_colon : (String.singleton c == ":") = true ↔ c = ':' := by
  rw [beq_iff_eq, ← String.toList_inj, String.toList_singleton]
  exact List.singleton_inj

theorem pair_of_divided {before after : String} (h : Divided c item before after) :
    pair (String.singleton c) flag item =
      .ok (Text.strip before, if c = ':' then Text.strip after else after) := by
  have divided : divide? (String.singleton c).toList item.toList =
      some (before.toList, after.toList) := by
    rw [String.toList_singleton, h.whole, divide?_append h.first]
  have filled : ¬(Text.strip before == "") = true := by
    rw [beq_iff_eq, Text.strip_eq_empty_iff, h.named]
    exact Bool.false_ne_true
  rw [pair, divided]
  dsimp only
  rw [String.ofList_toList, String.ofList_toList, if_neg filled]
  simp only [singleton_beq_colon]

theorem pair_of_not_pair (h : ¬IsPair c item) :
    pair (String.singleton c) flag item = .error (badItem (String.singleton c) flag item) := by
  rw [pair, String.toList_singleton]
  split
  · rfl
  · rename_i before after divided
    obtain ⟨whole, first⟩ := divide?_eq_some_iff.1 divided
    have blank : (Text.strip (String.ofList before) == "") = true := by
      by_contra filled
      refine h ⟨String.ofList before, String.ofList after, ?_, ?_, ?_⟩
      · rw [whole, String.toList_ofList, String.toList_ofList]
      · rwa [String.toList_ofList]
      · rwa [beq_iff_eq, Text.strip_eq_empty_iff, Bool.not_eq_true] at filled
    exact if_pos blank

theorem pair_eq_ok_iff {e : String × String} :
    pair (String.singleton c) flag item = .ok e ↔ Writes c item e := by
  constructor
  · intro h
    by_cases divides : IsPair c item
    · obtain ⟨before, after, divided⟩ := divides
      rw [pair_of_divided divided] at h
      cases h
      refine ⟨before, after, divided, Text.trimmed_strip before, ?_⟩
      split
      · exact Text.trimmed_strip after
      · rfl
    · rw [pair_of_not_pair divides] at h
      cases h
  · rintro ⟨before, after, divided, key, value⟩
    rw [pair_of_divided divided, key.strip_eq]
    by_cases colon : c = ':'
    · rw [if_pos colon] at value ⊢
      rw [value.strip_eq]
    · rw [if_neg colon] at value ⊢
      rw [← value]

theorem exists_pair_iff :
    (∃ e, pair (String.singleton c) flag item = .ok e) ↔ IsPair c item := by
  constructor
  · rintro ⟨e, h⟩
    obtain ⟨before, after, divided, -⟩ := pair_eq_ok_iff.1 h
    exact ⟨before, after, divided⟩
  · rintro ⟨before, after, divided⟩
    exact ⟨_, pair_of_divided divided⟩

theorem pair_eq_error_iff {f : Failure} : pair (String.singleton c) flag item = .error f ↔
    ¬IsPair c item ∧ f = badItem (String.singleton c) flag item := by
  constructor
  · intro h
    have refused : ¬IsPair c item := fun divides => by
      obtain ⟨e, written⟩ := exists_pair_iff.2 divides
      cases h.symm.trans written
    exact ⟨refused, Except.error.inj (h.symm.trans (pair_of_not_pair refused))⟩
  · rintro ⟨refused, rfl⟩
    exact pair_of_not_pair refused

end

/-! ## All items -/

theorem gathers_iff {es m : Assoc String String} : Gathers es m ↔ m = Assoc.ofList es := by
  constructor
  · intro h
    refine Assoc.eq_of_keys (h.keys.trans (Assoc.keys_ofList es).symm)
      (Assoc.nodup_keys_ofList es) fun e mem => ?_
    exact Assoc.mem_ofList_iff.2 ((h.values e.1 e.2).1 mem)
  · rintro rfl
    exact ⟨Assoc.keys_ofList es, fun _ _ => Assoc.mem_ofList_iff⟩

section

variable {c : Char} {flag : String} {items : List String}

theorem read_eq_ok_iff {m : Assoc String String} : read (String.singleton c) flag items = .ok m ↔
    ∃ es, List.Forall₂ (Writes c) items es ∧ Gathers es m := by
  rw [read, Outcome.bind_eq_ok]
  simp only [Outcome.mapM_eq_ok, pair_eq_ok_iff, gathers_iff]
  refine exists_congr fun es => and_congr_right fun _ => ?_
  exact ⟨fun h => (Except.ok.inj h).symm, fun h => congrArg Except.ok h.symm⟩

theorem exists_read_iff :
    (∃ m, read (String.singleton c) flag items = .ok m) ↔ ∀ item ∈ items, IsPair c item := by
  have traversed : (∃ es, items.mapM (pair (String.singleton c) flag) = .ok es) ↔
      ∀ item ∈ items, IsPair c item := by
    simp only [Outcome.exists_mapM_eq_ok, exists_pair_iff]
  rw [← traversed]
  constructor
  · rintro ⟨m, h⟩
    obtain ⟨es, written, -⟩ := Outcome.bind_eq_ok.1 h
    exact ⟨es, written⟩
  · rintro ⟨es, written⟩
    exact ⟨_, Outcome.bind_eq_ok.2 ⟨es, written, rfl⟩⟩

theorem read_eq_error_iff {f : Failure} : read (String.singleton c) flag items = .error f ↔
    ∃ item, FirstRefused c items item ∧ f = badItem (String.singleton c) flag item := by
  have unread : read (String.singleton c) flag items = .error f ↔
      items.mapM (pair (String.singleton c) flag) = .error f := by
    rw [read, Outcome.bind_eq_error, or_iff_left (by rintro ⟨es, -, ⟨⟩⟩)]
  rw [unread, Outcome.mapM_eq_error]
  simp only [exists_pair_iff, pair_eq_error_iff]
  constructor
  · rintro ⟨before, item, after, whole, divide, refused, named⟩
    exact ⟨item, ⟨before, after, whole, divide, refused⟩, named⟩
  · rintro ⟨item, ⟨before, after, whole, divide, refused⟩, named⟩
    exact ⟨before, item, after, whole, divide, refused, named⟩

end

/-- **What items come to**, divided by one character, such as the equals sign of parameters or the
colon of headers. They are read exactly if every one can be divided, and then a mapping gathers the
pairs that they write. Otherwise the failure exits with 2 and names the first item that cannot be
divided. -/
theorem read_gathers (c : Char) (flag : String) (items : List String) :
    let result := read (String.singleton c) flag items
    ((∃ m, result = .ok m) ↔ ∀ item ∈ items, IsPair c item) ∧
    (∀ m, result = .ok m ↔ ∃ es, List.Forall₂ (Writes c) items es ∧ Gathers es m) ∧
    ∀ f, result = .error f ↔ ∃ item, FirstRefused c items item ∧ f.exitCode? = some 2 ∧
      f = .usage ("Invalid " ++ flag ++ " value '" ++ item ++ "': expected key" ++
        String.singleton c ++ "value") := by
  intro result
  refine ⟨exists_read_iff, fun m => read_eq_ok_iff, fun f => read_eq_error_iff.trans ?_⟩
  refine exists_congr fun item => and_congr_right fun _ => ?_
  constructor
  · rintro rfl
    exact ⟨rfl, rfl⟩
  · exact And.right

example : read "=" "--param" ["a=1", " b = 2=3", "a =4 "] = .ok [("a", "4 "), ("b", " 2=3")] := rfl

example : read ":" "--header" ["X-Time: 10:30 ", "Y"] =
    .error (.usage "Invalid --header value 'Y': expected key:value") := rfl

end Cli.Pairs

end RouteSchema
