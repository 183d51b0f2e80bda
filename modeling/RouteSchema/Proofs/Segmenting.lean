import RouteSchema.Proofs.Joining

/-!
# Components of paths

What counts in a path are its components, the pieces between separators that are not empty. Joining
keeps the components of the root address and of the segments in their order, and puts exactly one
separator between two of them.

* `components_append_cons`: no component reaches across a separator.
* `placed` is the path of components below the beginning of a text: `stem_eq_placed`.
* `Divides` says where the first scheme mark of a text stands: `divides_of_splitScheme?`.
* `components_join`: the components of a joined path.
* `join_places`: a joined path, told by its components.
-/

namespace RouteSchema.Path

/-- The components of a text: its pieces between separators, without the empty ones. -/
def components (cs : List Char) : List (List Char) := (cs.splitOn '/').filter (!·.isEmpty)

/-- The components of segments in their order. -/
def componentsOf (segments : List String) : List (List Char) :=
  segments.flatMap fun s => components s.toList

/-- The path of the components of a text and of further ones, with one separator between two. It
begins with a separator if the text does, or has no component. -/
def placed (cs : List Char) (more : List (List Char)) : List Char :=
  (if cs.head? = some '/' ∨ components cs = [] then ['/'] else []) ++
    ['/'].intercalate (components cs ++ more)

/-- A text has its first scheme mark between a scheme and a rest. -/
structure Divides (cs scheme rest : List Char) : Prop where
  whole : cs = scheme ++ schemeMark ++ rest
  first : ∀ before after, cs = before ++ schemeMark ++ after → scheme.length ≤ before.length

/-! ## Components -/

@[simp] theorem components_nil : components [] = [] := rfl

/-- No component reaches across a separator. -/
theorem components_append_cons (xs ys : List Char) :
    components (xs ++ '/' :: ys) = components xs ++ components ys := by
  unfold components List.splitOn
  rw [List.splitOnP_append_cons xs ys (by simp), List.filter_append]

@[simp] theorem components_cons (cs : List Char) : components ('/' :: cs) = components cs :=
  components_append_cons [] cs

@[simp] theorem components_concat (cs : List Char) : components (cs ++ ['/']) = components cs := by
  simp [components_append_cons]

/-- A text without separators is one component. -/
theorem components_of_free {w : List Char} (filled : w ≠ []) (free : '/' ∉ w) :
    components w = [w] := by
  simp [components, List.splitOn_eq_singleton free, filled]

/-- Shortening runs of separators keeps the components, whatever stands in front. -/
theorem components_append_collapse (w cs : List Char) :
    components (w ++ collapse cs) = components (w ++ cs) := by
  induction cs using collapse.induct generalizing w with
  | case1 => rfl
  | case2 c => rfl
  | case3 c d cs h ih =>
    obtain ⟨rfl, rfl⟩ := h
    rw [collapse, if_pos ⟨rfl, rfl⟩, ih]
    simp [components_append_cons]
  | case4 c d cs h ih =>
    rw [collapse, if_neg h]
    simpa using ih (w ++ [c])

theorem components_collapse (cs : List Char) : components (collapse cs) = components cs :=
  components_append_collapse [] cs

theorem components_trimEnd (cs : List Char) : components (trimEnd cs) = components cs := by
  induction cs using List.reverseRecOn with
  | nil => rfl
  | append_singleton cs c ih =>
    show components (List.rdropWhile (· == '/') (cs ++ [c])) = _
    rw [List.rdropWhile_concat]
    split
    · rename_i separator
      obtain rfl : c = '/' := by simpa using separator
      rw [components_concat]
      exact ih
    · rfl

theorem components_trimStart (cs : List Char) :
    components (cs.dropWhile (· == '/')) = components cs := by
  induction cs with
  | nil => rfl
  | cons c cs ih =>
    rw [List.dropWhile_cons]
    split
    · rename_i separator
      obtain rfl : c = '/' := by simpa using separator
      rw [ih, components_cons]
    · rfl

/-- What a segment contributes has the components of the segment. -/
theorem components_part (segment : String) :
    components (part segment) = components segment.toList := by
  rw [part, trim, components_trimEnd, components_trimStart, components_collapse]

theorem flatMap_components_parts (segments : List String) :
    (parts segments).flatMap components = componentsOf segments := by
  induction segments with
  | nil => rfl
  | cons s segments ih =>
    have rest : parts (s :: segments) =
        (if part s = [] then [] else [part s]) ++ parts segments := by
      by_cases empty : part s = [] <;> simp [parts, empty]
    have first : (if part s = [] then [] else [part s]).flatMap components =
        components s.toList := by
      rw [← components_part]
      by_cases empty : part s = [] <;> simp [empty]
    rw [rest, List.flatMap_append, first, ih]
    rfl

/-! ## Texts and their components -/

/-- What stands behind a separator in a piece is a piece. -/
theorem Piece.behind {w rest : List Char} (h : Piece (w ++ '/' :: rest)) : Piece rest := by
  have tail : ∀ c ∈ ('/' :: rest).getLast?, c ≠ '/' := by
    intro c hc
    exact h.last c (by simpa using hc)
  have chain : Single ('/' :: rest) := List.IsChain.suffix h.single (List.suffix_append _ _)
  cases rest with
  | nil => exact absurd rfl (tail '/' rfl)
  | cons c rest =>
    obtain ⟨apart, single⟩ := List.isChain_cons_cons.1 chain
    refine ⟨⟨single, by simpa using tail⟩, ?_, List.cons_ne_nil c rest⟩
    rintro _ ⟨⟩ separator
    exact apart ⟨rfl, separator⟩

/-- A piece is its components with one separator between two. -/
theorem Piece.stem_components {p : List Char} (h : Piece p) :
    stem [] (components p) = '/' :: p := by
  by_cases separated : '/' ∈ p
  · obtain ⟨w, rest, rfl, free⟩ := List.eq_append_cons_of_mem separated
    have filled : w ≠ [] := by
      rintro rfl
      exact h.first '/' rfl rfl
    have ih := h.behind.stem_components
    rw [components_append_cons, components_of_free filled free, stem_append, stem_cons, stem_nil]
    rw [stem, List.nil_append] at ih
    rw [stem, ih]
    simp
  · rw [components_of_free h.nonempty separated, stem_cons, stem_nil]
    rfl
termination_by p.length

/-- A front that does not begin with a separator is a piece, unless it is empty. -/
theorem Front.piece {f : List Char} (h : Front f) (filled : f ≠ []) (bare : f.head? ≠ some '/') :
    Piece f :=
  ⟨h, fun _ hc separator => bare (separator ▸ hc), filled⟩

/-- A front that begins with a separator has one before each of its components. -/
theorem Front.stem_components {f : List Char} (h : Front f) (led : f.head? = some '/') :
    Path.stem [] (components f) = f := by
  obtain ⟨g, rfl⟩ := List.head?_eq_some_iff.1 led
  -- Without the separator it is a piece: it goes on, and with another character.
  have piece : Piece g := by
    cases g with
    | nil => exact absurd rfl (h.last '/' rfl)
    | cons c g =>
      obtain ⟨apart, single⟩ := List.isChain_cons_cons.1 h.single
      refine ⟨⟨single, by simpa using h.last⟩, ?_, List.cons_ne_nil c g⟩
      rintro _ ⟨⟩ separator
      exact apart ⟨rfl, separator⟩
  rw [components_cons, piece.stem_components]

/-- Only the empty front has no components. -/
theorem Front.eq_nil {f : List Char} (h : Front f) (bare : components f = []) : f = [] := by
  by_cases led : f.head? = some '/'
  · rw [← h.stem_components led, bare, stem_nil]
  · by_contra filled
    have spelled := (h.piece filled led).stem_components
    rw [bare, stem_nil] at spelled
    cases spelled

/-- Pieces may be joined component by component. -/
theorem stem_flatMap_components {ps : List (List Char)} (hp : ∀ p ∈ ps, Piece p)
    (front : List Char) : stem front (ps.flatMap components) = stem front ps := by
  induction ps generalizing front with
  | nil => rfl
  | cons p ps ih =>
    obtain ⟨piece, others⟩ := List.forall_mem_cons.1 hp
    have spelled := piece.stem_components
    rw [stem, List.nil_append] at spelled
    rw [List.flatMap_cons, stem_append, stem_cons, ih others, stem, stem, spelled]
    rfl

/-- Components below the empty front, with a separator before each. -/
theorem stem_eq_cons_intercalate {comps : List (List Char)} (filled : comps ≠ []) :
    stem [] comps = '/' :: ['/'].intercalate comps := by
  induction comps with
  | nil => exact absurd rfl filled
  | cons c comps ih =>
    cases comps with
    | nil => simp [stem]
    | cons d comps =>
      have rest := ih (List.cons_ne_nil d comps)
      rw [stem, List.nil_append] at rest ⊢
      rw [List.flatMap_cons, rest, List.intercalate_cons_cons]
      simp

/-- What is left of a text begins as the text does. -/
theorem head?_trimEnd_collapse {cs : List Char} (filled : trimEnd (collapse cs) ≠ []) :
    (trimEnd (collapse cs)).head? = cs.head? := by
  obtain ⟨cut, whole⟩ := trimEnd_isPrefix (collapse cs)
  obtain ⟨c, f, kept⟩ := List.exists_cons_of_ne_nil filled
  have first : (collapse cs).head? = some c := by rw [← whole, kept]; rfl
  rw [← (single_collapse cs).2, first, kept]
  rfl

section

variable {cs : List Char} {more : List (List Char)}

theorem components_front (cs : List Char) :
    components (trimEnd (collapse cs)) = components cs := by
  rw [components_trimEnd, components_collapse]

/-- **What is left of a text, with components joined onto it**, is told by all components. -/
theorem stem_eq_placed (filled : components cs ++ more ≠ []) :
    stem (trimEnd (collapse cs)) more = placed cs more := by
  have front : Front (trimEnd (collapse cs)) := front_trimEnd (single_collapse cs).1
  by_cases empty : trimEnd (collapse cs) = []
  · have bare : components cs = [] := by rw [← components_front, empty, components_nil]
    rw [bare, List.nil_append] at filled
    rw [empty, placed, if_pos (.inr bare), bare, List.nil_append, stem_eq_cons_intercalate filled]
    rfl
  · have first := head?_trimEnd_collapse empty
    by_cases led : cs.head? = some '/'
    · rw [placed, if_pos (.inl led), List.singleton_append, ← stem_eq_cons_intercalate filled,
        stem_append, ← components_front, front.stem_components (first.trans led)]
    · have own : components cs ≠ [] := by
        rw [← components_front]
        exact mt front.eq_nil empty
      have whole : '/' :: stem (trimEnd (collapse cs)) more = stem [] (components cs ++ more) := by
        rw [stem_append, ← components_front, (front.piece empty (first ▸ led)).stem_components]
        rfl
      rw [stem_eq_cons_intercalate filled] at whole
      rw [placed, if_neg (not_or.2 ⟨led, own⟩), List.nil_append]
      exact (List.cons_eq_cons.1 whole).2

/-- Nothing is left and joined exactly if there are no components. -/
theorem stem_eq_nil_iff : stem (trimEnd (collapse cs)) more = [] ↔ components cs ++ more = [] := by
  have front : Front (trimEnd (collapse cs)) := front_trimEnd (single_collapse cs).1
  rw [stem_eq_nil, List.append_eq_nil_iff, ← components_front]
  refine and_congr_left fun _ => ⟨fun empty => ?_, front.eq_nil⟩
  rw [empty, components_nil]

end

/-! ## Schemes -/

/-- A text with a scheme mark is split, at that mark or an earlier one. -/
theorem exists_splitScheme? {cs before after : List Char} (h : cs = before ++ schemeMark ++ after) :
    ∃ scheme rest, splitScheme? cs = some (scheme, rest) ∧ scheme.length ≤ before.length := by
  induction cs generalizing before with
  | nil => simp [schemeMark] at h
  | cons c cs ih =>
    rw [splitScheme?]
    split
    · exact ⟨[], _, rfl, Nat.zero_le _⟩
    · rename_i mark
      cases before with
      | nil =>
        rw [h] at mark
        exact absurd (List.isPrefixOf_iff_prefix.2 ⟨after, rfl⟩) mark
      | cons b before =>
        obtain ⟨scheme, rest, split, shorter⟩ := ih (List.cons_eq_cons.1 h).2
        exact ⟨c :: scheme, rest, by rw [split]; rfl, Nat.succ_le_succ shorter⟩

theorem divides_of_splitScheme? {cs scheme rest : List Char}
    (h : splitScheme? cs = some (scheme, rest)) : Divides cs scheme rest where
  whole := eq_of_splitScheme? h
  first before after whole := by
    obtain ⟨_, _, split, shorter⟩ := exists_splitScheme? whole
    cases h.symm.trans split
    exact shorter

theorem Divides.splitScheme? {cs scheme rest : List Char} (h : Divides cs scheme rest) :
    splitScheme? cs = some (scheme, rest) := by
  obtain ⟨scheme', rest', split, shorter⟩ := exists_splitScheme? h.whole
  have same : scheme ++ (schemeMark ++ rest) = scheme' ++ (schemeMark ++ rest') := by
    rw [← List.append_assoc, ← List.append_assoc, ← h.whole, eq_of_splitScheme? split]
  have longer := h.first scheme' rest' (eq_of_splitScheme? split)
  obtain ⟨rfl, tails⟩ := List.append_inj same (Nat.le_antisymm longer shorter)
  rw [split, List.append_cancel_left tails]

/-! ## Joined paths -/

theorem components_stem (front : List Char) (ps : List (List Char)) :
    components (stem front ps) = components front ++ ps.flatMap components := by
  induction ps generalizing front with
  | nil => simp
  | cons p ps ih => rw [stem_cons, ih, components_append_cons, List.flatMap_cons, List.append_assoc]

theorem components_head (base : List Char) : components (head base) = components base := by
  cases h : splitScheme? base with
  | none => rw [head, h, components_front]
  | some found =>
    obtain ⟨scheme, rest⟩ := found
    have marked (cs : List Char) :
        components (scheme ++ schemeMark ++ cs) = components (scheme ++ [':']) ++ components cs := by
      have slashes : scheme ++ schemeMark ++ cs = scheme ++ [':'] ++ '/' :: '/' :: cs := by
        simp [schemeMark]
      rw [slashes, components_append_cons, components_cons]
    have kept : components (head base) = components (scheme ++ [':']) ++ components rest := by
      rw [head, h, marked, components_front]
    rw [kept, ← marked, ← eq_of_splitScheme? h]

/-- **Joining keeps components**: those of a joined path are those of its parts, in order. -/
theorem components_join (base : String) (segments : List String) :
    components (join base segments).toList = components base.toList ++ componentsOf segments := by
  have joined : components (stem (head base.toList) (parts segments)) =
      components base.toList ++ componentsOf segments := by
    rw [components_stem, components_head, flatMap_components_parts]
  rw [toList_join, ← joined]
  by_cases empty : stem (head base.toList) (parts segments) = []
  · -- the separator alone has as many components as nothing
    obtain ⟨front, parts⟩ := stem_eq_nil.1 empty
    rw [front, parts]
    rfl
  · rw [below_eq_stem empty]

theorem stem_parts (front : List Char) (segments : List String) :
    stem front (parts segments) = stem front (componentsOf segments) := by
  rw [← stem_flatMap_components piece_of_mem_parts, flatMap_components_parts]

/-- A path on a root address without a scheme. -/
theorem toList_join_of_free {base : String} (free : ¬schemeMark <:+: base.toList)
    (segments : List String) :
    (join base segments).toList = placed base.toList (componentsOf segments) := by
  have none : splitScheme? base.toList = none := by
    refine Option.eq_none_iff_forall_ne_some.2 fun ⟨scheme, rest⟩ split => free ?_
    exact ⟨scheme, rest, (eq_of_splitScheme? split).symm⟩
  have front : head base.toList = trimEnd (collapse base.toList) := by rw [head, none]
  rw [toList_join, front]
  by_cases bare : components base.toList ++ componentsOf segments = []
  · have empty := stem_eq_nil_iff.2 bare
    rw [← stem_parts] at empty
    obtain ⟨nothing, nothing'⟩ := stem_eq_nil.1 empty
    rw [nothing, nothing', placed, bare, if_pos (.inr (List.append_eq_nil_iff.1 bare).1)]
    rfl
  · rw [below_eq_stem, stem_parts, stem_eq_placed bare]
    rw [stem_parts]
    exact mt stem_eq_nil_iff.1 bare

/-- A path on a root address with a scheme. -/
theorem toList_join_of_divides {base : String} {scheme rest : List Char}
    (divides : Divides base.toList scheme rest) (segments : List String) :
    (join base segments).toList = scheme ++ schemeMark ++
      if components rest ++ componentsOf segments = [] then []
      else placed rest (componentsOf segments) := by
  have front : head base.toList = scheme ++ schemeMark ++ trimEnd (collapse rest) := by
    rw [head, divides.splitScheme?]
  have grouped : stem (head base.toList) (parts segments) =
      scheme ++ schemeMark ++ stem (trimEnd (collapse rest)) (componentsOf segments) := by
    rw [stem_parts, front]
    simp [stem]
  have filled : stem (head base.toList) (parts segments) ≠ [] := by
    rw [grouped]
    simp [schemeMark]
  rw [toList_join, below_eq_stem filled, grouped]
  split
  · rw [stem_eq_nil_iff.2 ‹_›]
  · rw [stem_eq_placed ‹_›]

/-- **A joined path is told by its components.** Without a scheme, those of the root address and of
the segments stand behind the beginning of the address. Behind a scheme stand those of the rest and
of the segments, or nothing if there are none. Joining in steps is joining at once. -/
theorem join_places (base : String) (segments : List String) :
    (¬schemeMark <:+: base.toList →
      (join base segments).toList = placed base.toList (componentsOf segments)) ∧
    (∀ scheme rest, Divides base.toList scheme rest → (join base segments).toList =
      scheme ++ schemeMark ++ if components rest ++ componentsOf segments = [] then []
        else placed rest (componentsOf segments)) ∧
    ∀ others, join (join base segments) others = join base (segments ++ others) :=
  ⟨fun free => toList_join_of_free free segments,
    fun _ _ divides => toList_join_of_divides divides segments, join_join base segments⟩

/-- Root addresses with an empty authority and with no scheme, under segments with separators and
marks in them. -/
theorem join_places_authority :
    ¬schemeMark <:+: "//a:/b".toList ∧ Divides "ftp:///".toList "ftp".toList ['/'] ∧
    (join "//a:/b" ["", "://c//"]).toList = "/a:/b/:/c".toList ∧
    (join "ftp:///" ["//"]).toList = "ftp://".toList ∧
    join (join "ftp:///" ["//"]) ["x//", "y"] = join "ftp:///" ["//", "x//", "y"] := by
  have free : ¬schemeMark <:+: "//a:/b".toList := by decide
  have divides : Divides "ftp:///".toList "ftp".toList ['/'] :=
    divides_of_splitScheme? (by decide)
  obtain ⟨plain, -, -⟩ := join_places "//a:/b" ["", "://c//"]
  obtain ⟨-, schemed, steps⟩ := join_places "ftp:///" ["//"]
  refine ⟨free, divides, ?_, ?_, steps _⟩
  · rw [plain free]
    decide
  · rw [schemed _ _ divides]
    decide

end RouteSchema.Path
