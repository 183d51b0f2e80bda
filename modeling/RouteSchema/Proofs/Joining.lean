import Mathlib.Data.List.Chain
import Mathlib.Data.List.DropRight
import RouteSchema.Path

/-!
# Joining paths in steps

A path may be joined one segment at a time: every intermediate path is read again as a root address
and comes out as it went in.

* `head_stem`: the front of a path is the path, whatever parts it ends with.
* `join_join`: joining onto a joined path is joining everything at once.
-/

namespace RouteSchema.Path

/-- No separator directly follows another one. -/
def Single (cs : List Char) : Prop := cs.IsChain fun a b => ¬(a = '/' ∧ b = '/')

/-- A front onto which parts can be joined: no double separator, and none at the end. -/
structure Front (cs : List Char) : Prop where
  single : Single cs
  last : ∀ c ∈ cs.getLast?, c ≠ '/'

/-- A front that does not begin with a separator either, and is not empty. -/
structure Piece (cs : List Char) : Prop extends Front cs where
  first : ∀ c ∈ cs.head?, c ≠ '/'
  nonempty : cs ≠ []

/-! ## Collapsing and trimming -/

theorem single_collapse (cs : List Char) :
    Single (collapse cs) ∧ (collapse cs).head? = cs.head? := by
  induction cs using collapse.induct with
  | case1 => exact ⟨.nil, rfl⟩
  | case2 c => exact ⟨.singleton c, rfl⟩
  | case3 c d cs h ih =>
    obtain ⟨rfl, rfl⟩ := h
    rw [collapse, if_pos ⟨rfl, rfl⟩]
    exact ih
  | case4 c d cs h ih =>
    rw [collapse, if_neg h]
    refine ⟨ih.1.cons fun y hy => ?_, rfl⟩
    rw [ih.2, List.head?_cons, Option.mem_some_iff] at hy
    exact hy ▸ h

theorem collapse_of_single {cs : List Char} (h : Single cs) : collapse cs = cs := by
  induction cs using collapse.induct with
  | case1 => rfl
  | case2 c => rfl
  | case3 c d cs hcd ih => exact absurd hcd (List.isChain_cons_cons.1 h).1
  | case4 c d cs hcd ih => rw [collapse, if_neg hcd, ih (List.isChain_cons_cons.1 h).2]

theorem trimEnd_isPrefix (cs : List Char) : trimEnd cs <+: cs :=
  List.rdropWhile_prefix (· == '/') cs

theorem last_trimEnd (cs : List Char) : ∀ c ∈ (trimEnd cs).getLast?, c ≠ '/' := by
  intro c hc
  obtain ⟨hne, rfl⟩ := List.mem_getLast?_eq_getLast hc
  exact fun h => List.rdropWhile_last_not (· == '/') cs hne (beq_iff_eq.2 h)

theorem trimEnd_of_last {cs : List Char} (h : ∀ c ∈ cs.getLast?, c ≠ '/') : trimEnd cs = cs := by
  refine List.rdropWhile_eq_self_iff.2 fun hne => ?_
  simpa using h _ (List.getLast?_eq_some_getLast hne)

theorem front_trimEnd {cs : List Char} (h : Single cs) : Front (trimEnd cs) where
  single := List.IsChain.prefix h (trimEnd_isPrefix cs)
  last := last_trimEnd cs

/-- A front is not changed by collapsing and trimming. -/
theorem Front.trimEnd_collapse {cs : List Char} (h : Front cs) : trimEnd (collapse cs) = cs := by
  rw [collapse_of_single h.single, trimEnd_of_last h.last]

/-- What a segment contributes is a piece, unless it is nothing. -/
theorem piece_part {segment : String} (h : part segment ≠ []) : Piece (part segment) := by
  have single := (single_collapse segment.toList).1
  refine ⟨front_trimEnd (single.suffix (List.dropWhile_suffix _)), fun c hc => ?_, h⟩
  -- trimming the end keeps the first character, which `dropWhile` has left
  obtain ⟨rest, hrest⟩ := List.head?_eq_some_iff.1 hc
  obtain ⟨cut, hcut⟩ := trimEnd_isPrefix ((collapse segment.toList).dropWhile (· == '/'))
  have := List.head?_dropWhile_not (· == '/') (collapse segment.toList)
  rw [← hcut, show trimEnd _ = c :: rest from hrest] at this
  simpa using this

/-! ## Paths on a front -/

/-- A front with parts joined onto it. -/
def stem (front : List Char) (parts : List (List Char)) : List Char :=
  front ++ parts.flatMap ('/' :: ·)

@[simp] theorem stem_nil (front : List Char) : stem front [] = front := List.append_nil front

theorem stem_cons (front p : List Char) (ps : List (List Char)) :
    stem front (p :: ps) = stem (front ++ '/' :: p) ps := by
  simp [stem]

theorem stem_append (front : List Char) (ps qs : List (List Char)) :
    stem front (ps ++ qs) = stem (stem front ps) qs := by
  simp [stem]

theorem stem_eq_nil {front : List Char} {parts : List (List Char)} :
    stem front parts = [] ↔ front = [] ∧ parts = [] := by
  cases parts <;> simp [stem]

theorem below_eq_stem {front : List Char} {parts : List (List Char)}
    (h : stem front parts ≠ []) : below front parts = stem front parts := by
  cases parts with
  | nil => simp_all [below]
  | cons p ps => rfl

theorem Front.cons {front p : List Char} (hf : Front front) (hp : Piece p) :
    Front (front ++ '/' :: p) := by
  obtain ⟨c, cs, rfl⟩ := List.exists_cons_of_ne_nil hp.nonempty
  have first : c ≠ '/' := hp.first c rfl
  constructor
  · refine hf.single.append (List.isChain_cons_cons.2 ⟨fun h => first h.2, hp.single⟩) ?_
    rintro a ha b hb ⟨rfl, -⟩
    exact hf.last _ ha rfl
  · simpa using hp.last

/-- Joining pieces onto a front gives a front. -/
theorem Front.stem {front : List Char} {parts : List (List Char)} (hf : Front front)
    (hp : ∀ p ∈ parts, Piece p) : Front (stem front parts) := by
  induction parts generalizing front with
  | nil => simpa using hf
  | cons p ps ih =>
    rw [stem_cons]
    exact ih (hf.cons (hp p (by simp))) fun q hq => hp q (by simp [hq])

/-! ## The scheme of a path -/

/-- Splitting at the first scheme mark loses nothing. -/
theorem eq_of_splitScheme? {cs scheme rest : List Char}
    (h : splitScheme? cs = some (scheme, rest)) : cs = scheme ++ schemeMark ++ rest := by
  induction cs generalizing scheme with
  | nil => simp [splitScheme?] at h
  | cons c cs ih =>
    rw [splitScheme?] at h
    split at h
    · rename_i mark
      obtain ⟨tail, htail⟩ := List.isPrefixOf_iff_prefix.1 mark
      obtain ⟨rfl, rfl⟩ : ':' = c ∧ '/' :: '/' :: tail = cs := by simpa [schemeMark] using htail
      cases h
      rfl
    · rename_i mark
      obtain ⟨⟨s, r⟩, hs, he⟩ := Option.map_eq_some_iff.1 h
      cases he
      simpa using ih hs

/-- The first scheme mark stays the first one, whatever follows it. -/
theorem splitScheme?_append {cs scheme rest : List Char}
    (h : splitScheme? cs = some (scheme, rest)) (other : List Char) :
    splitScheme? (scheme ++ schemeMark ++ other) = some (scheme, other) := by
  induction cs generalizing scheme with
  | nil => simp [splitScheme?] at h
  | cons c cs ih =>
    rw [splitScheme?] at h
    split at h
    · cases h
      simp [splitScheme?, schemeMark]
    · rename_i mark
      obtain ⟨⟨s, r⟩, hs, he⟩ := Option.map_eq_some_iff.1 h
      cases he
      have old := eq_of_splitScheme? hs
      -- the first three characters lie before what follows the mark
      have first : schemeMark.isPrefixOf (c :: (s ++ schemeMark ++ other)) =
          schemeMark.isPrefixOf (c :: cs) := by
        rw [old]
        rcases s with _ | ⟨a, _ | ⟨b, s⟩⟩ <;> simp [schemeMark, List.isPrefixOf]
      show splitScheme? (c :: (s ++ schemeMark ++ other)) = _
      rw [splitScheme?, first, if_neg mark, ih hs]
      rfl

/-- A text without double separators has no scheme mark. -/
theorem Single.splitScheme? {cs : List Char} (h : Single cs) : splitScheme? cs = none := by
  refine Option.eq_none_iff_forall_ne_some.2 fun ⟨scheme, rest⟩ hs => ?_
  have double : ['/', '/'] <:+: cs := ⟨scheme ++ [':'], rest, by
    rw [eq_of_splitScheme? hs]; simp [schemeMark]⟩
  have chain := List.IsChain.infix h double
  exact (List.isChain_cons_cons.1 chain).1 ⟨rfl, rfl⟩

/-! ## Reading a path as a root address -/

/-- **A path on the front of a root address is its own front.** -/
theorem head_stem (base : List Char) {parts : List (List Char)} (hp : ∀ p ∈ parts, Piece p) :
    head (stem (head base) parts) = stem (head base) parts := by
  cases h : splitScheme? base with
  | none =>
    have front : Front (stem (trimEnd (collapse base)) parts) :=
      (front_trimEnd (single_collapse base).1).stem hp
    simp only [head, h, front.single.splitScheme?]
    exact front.trimEnd_collapse
  | some found =>
    obtain ⟨scheme, rest⟩ := found
    have front : Front (stem (trimEnd (collapse rest)) parts) :=
      (front_trimEnd (single_collapse rest).1).stem hp
    have grouped : stem (scheme ++ schemeMark ++ trimEnd (collapse rest)) parts =
        scheme ++ schemeMark ++ stem (trimEnd (collapse rest)) parts := by simp [stem]
    simp only [head, h, grouped, splitScheme?_append h, front.trimEnd_collapse]

/-- The parts that segments contribute. -/
def parts (segments : List String) : List (List Char) :=
  (segments.map part).filter (!·.isEmpty)

theorem parts_append (xs ys : List String) : parts (xs ++ ys) = parts xs ++ parts ys := by
  simp [parts]

theorem piece_of_mem_parts {segments : List String} : ∀ p ∈ parts segments, Piece p := by
  intro p hp
  obtain ⟨hp, hne⟩ := List.mem_filter.1 hp
  obtain ⟨s, -, rfl⟩ := List.mem_map.1 hp
  exact piece_part (by simpa using hne)

theorem toList_join (base : String) (segments : List String) :
    (join base segments).toList = below (head base.toList) (parts segments) :=
  String.toList_ofList

theorem head_join (base : String) (segments : List String) :
    head (join base segments).toList = stem (head base.toList) (parts segments) := by
  rw [toList_join]
  by_cases h : stem (head base.toList) (parts segments) = []
  · -- the separator alone, as a root address, is the empty front
    obtain ⟨hf, hp⟩ := stem_eq_nil.1 h
    rw [hf, hp]
    rfl
  · rw [below_eq_stem h, head_stem _ piece_of_mem_parts]

/-- **Joining onto a joined path is joining at once.** -/
theorem join_join (base : String) (xs ys : List String) :
    join (join base xs) ys = join base (xs ++ ys) := by
  rw [← String.toList_inj, toList_join (join base xs), head_join, toList_join, parts_append]
  by_cases h : stem (head base.toList) (parts xs ++ parts ys) = []
  · obtain ⟨hf, hp⟩ := stem_eq_nil.1 h
    obtain ⟨hx, hy⟩ := List.append_eq_nil_iff.1 hp
    rw [hf, hx, hy]
    rfl
  · rw [below_eq_stem h, stem_append]
    exact below_eq_stem (by rwa [← stem_append])

/-- Joining segments one after the other. -/
theorem foldl_join (base : String) (segments : List String) :
    segments.foldl (fun path s => join path [s]) base =
      if segments = [] then base else join base segments := by
  induction segments using List.reverseRecOn with
  | nil => rfl
  | append_singleton segments s ih =>
    have nonempty : segments ++ [s] ≠ [] :=
      List.append_ne_nil_of_right_ne_nil _ (List.cons_ne_nil s [])
    rw [List.foldl_concat, ih, if_neg nonempty]
    by_cases h : segments = []
    · rw [if_pos h, h, List.nil_append]
    · rw [if_neg h]
      exact join_join base segments [s]

end RouteSchema.Path
