import RouteSchema.Proofs.Bracing
import RouteSchema.Proofs.Flattening
import RouteSchema.Proofs.Segmenting

/-!
# Names along a way

In the address and the segments of a tree, names in braces are written by the author. Joining cuts
texts at separators and never inside braces, so that the path of an endpoint has the names that
stand along the way to it, in their order.

* `Braced` tells the names of a text with braces around names only, `BracedAll` those of several.
* `braced_append_cons`: a separator stands between two names, or outside of them.
* `braced_join`: the names of a joined path are those of its parts.
* `names_of_braced`: what the usual pattern finds in such a text.
* `flatten_names`: the names that the path of an endpoint requires are those along its way.
-/

namespace RouteSchema

/-- Braces stand in a text around names without separators, and nowhere else. The names are told in
their order. -/
inductive Braced : List Char → List (List Char) → Prop
  | tail {cs : List Char} (plain : ∀ c ∈ cs, Plain c) : Braced cs []
  | hole {gap w cs : List Char} {names : List (List Char)} (plain : ∀ c ∈ gap, Plain c)
      (name : Braceable w) (whole : '/' ∉ w) (rest : Braced cs names) :
      Braced (gap ++ '\x7b' :: (w ++ '\x7d' :: cs)) (w :: names)

/-- The names of several texts, one text after the other. -/
inductive BracedAll : List (List Char) → List (List Char) → Prop
  | nil : BracedAll [] []
  | cons {cs : List Char} {texts names others : List (List Char)} (first : Braced cs names)
      (rest : BracedAll texts others) : BracedAll (cs :: texts) (names ++ others)

theorem not_plain_open : ¬Plain '\x7b' := fun plain => plain.1 rfl

theorem plain_separator : Plain '/' := by decide

/-! ## Texts and separators -/

/-- Plain characters in front add no names. -/
theorem Braced.of_plain_append {gap cs : List Char} {names : List (List Char)}
    (plain : ∀ c ∈ gap, Plain c) (h : Braced cs names) : Braced (gap ++ cs) names := by
  cases h with
  | tail plain' => exact .tail (List.forall_mem_append.2 ⟨plain, plain'⟩)
  | hole plain' name whole rest =>
    rw [← List.append_assoc]
    exact .hole (List.forall_mem_append.2 ⟨plain, plain'⟩) name whole rest

theorem Braced.append {xs ys : List Char} {ms ns : List (List Char)} (h : Braced xs ms)
    (h' : Braced ys ns) : Braced (xs ++ ys) (ms ++ ns) := by
  induction h with
  | tail plain => exact .of_plain_append plain h'
  | hole plain name whole _ ih => simpa using Braced.hole plain name whole ih

/-- The names of a text are those before a separator and those behind it: none reaches across. -/
theorem Braced.exists_of_separated {xs ys : List Char} {names : List (List Char)}
    (h : Braced (xs ++ '/' :: ys) names) :
    ∃ ms ns, names = ms ++ ns ∧ Braced xs ms ∧ Braced ys ns := by
  generalize same : xs ++ '/' :: ys = cs at h
  induction h generalizing xs with
  | tail plain =>
    subst same
    obtain ⟨before, -, behind⟩ := List.forall_mem_append.1 plain |>.imp_right List.forall_mem_cons.1
    exact ⟨[], [], rfl, .tail before, .tail behind⟩
  | @hole gap w cs names plain name whole rest ih =>
    obtain ⟨cut, rfl, tails⟩ | ⟨cut, rfl, tails⟩ := List.append_eq_append_iff.1 same
    · cases cut with
      | nil => cases (List.cons_eq_cons.1 tails).1
      | cons c cut =>
        -- the separator stands before the first name
        obtain ⟨rfl, rfl⟩ := List.cons_eq_cons.1 tails
        obtain ⟨before, -, behind⟩ :=
          List.forall_mem_append.1 plain |>.imp_right List.forall_mem_cons.1
        exact ⟨[], w :: names, rfl, .tail before, .hole behind name whole rest⟩
    · cases cut with
      | nil => cases (List.cons_eq_cons.1 tails).1
      | cons c cut =>
        obtain ⟨rfl, later⟩ := List.cons_eq_cons.1 tails
        obtain ⟨before, rfl, rfl⟩ := exists_of_append_cons whole (by decide) later
        obtain ⟨ms, ns, rfl, front, back⟩ := ih rfl
        exact ⟨w :: ms, ns, rfl, .hole plain name whole front, back⟩

/-- **No name reaches across a separator.** -/
theorem braced_append_cons {xs ys : List Char} {names : List (List Char)} :
    Braced (xs ++ '/' :: ys) names ↔
      ∃ ms ns, names = ms ++ ns ∧ Braced xs ms ∧ Braced ys ns := by
  refine ⟨Braced.exists_of_separated, ?_⟩
  rintro ⟨ms, ns, rfl, front, back⟩
  have plain : ∀ c ∈ ['/'], Plain c := List.forall_mem_singleton.2 plain_separator
  exact front.append (.of_plain_append plain back)

theorem bracedAll_append {xs ys names : List (List Char)} :
    BracedAll (xs ++ ys) names ↔
      ∃ ms ns, names = ms ++ ns ∧ BracedAll xs ms ∧ BracedAll ys ns := by
  induction xs generalizing names with
  | nil =>
    constructor
    · exact fun h => ⟨[], names, rfl, .nil, h⟩
    · rintro ⟨_, ns, rfl, ⟨⟩, h⟩
      exact h
  | cons cs xs ih =>
    constructor
    · rintro (_ | ⟨first, rest⟩)
      obtain ⟨ms, ns, rfl, front, back⟩ := ih.1 rest
      exact ⟨_, ns, (List.append_assoc _ _ _).symm, .cons first front, back⟩
    · rintro ⟨_, ns, rfl, _ | ⟨first, rest⟩, back⟩
      rw [List.append_assoc]
      exact .cons first (ih.2 ⟨_, ns, rfl, rest, back⟩)

theorem bracedAll_singleton {cs : List Char} {names : List (List Char)} :
    BracedAll [cs] names ↔ Braced cs names := by
  constructor
  · rintro (_ | ⟨first, ⟨⟩⟩)
    rwa [List.append_nil]
  · intro h
    simpa using BracedAll.cons h .nil

/-- The names of a text are those of its components. -/
theorem bracedAll_components {cs : List Char} {names : List (List Char)} :
    BracedAll (Path.components cs) names ↔ Braced cs names := by
  by_cases separated : '/' ∈ cs
  · obtain ⟨w, rest, rfl, -⟩ := List.eq_append_cons_of_mem separated
    have front {ms : List (List Char)} : BracedAll (Path.components w) ms ↔ Braced w ms :=
      bracedAll_components
    have back {ns : List (List Char)} : BracedAll (Path.components rest) ns ↔ Braced rest ns :=
      bracedAll_components
    rw [Path.components_append_cons, bracedAll_append, braced_append_cons]
    simp only [front, back]
  · by_cases filled : cs = []
    · subst filled
      rw [Path.components_nil]
      constructor
      · rintro ⟨⟩
        exact .tail (List.forall_mem_nil _)
      · generalize same : [] = cs
        rintro (_ | _)
        · exact .nil
        · simp at same
    · rw [Path.components_of_free filled separated, bracedAll_singleton]
termination_by cs.length

theorem bracedAll_flatMap_components {texts names : List (List Char)} :
    BracedAll (texts.flatMap Path.components) names ↔ BracedAll texts names := by
  induction texts generalizing names with
  | nil => rfl
  | cons cs texts ih =>
    rw [List.flatMap_cons, ← List.singleton_append (l := texts), bracedAll_append, bracedAll_append]
    simp only [bracedAll_components, bracedAll_singleton, ih]

/-- **The names of a joined path are those of its parts**, in their order, whatever separators are
dropped and put between them. -/
theorem braced_join {base : String} {segments : List String} {names : List (List Char)} :
    Braced (Path.join base segments).toList names ↔
      BracedAll (base.toList :: segments.map String.toList) names := by
  have parts : Path.components (Path.join base segments).toList =
      (base.toList :: segments.map String.toList).flatMap Path.components := by
    rw [Path.components_join, List.flatMap_cons, List.flatMap_map]
    rfl
  rw [← bracedAll_components, parts, bracedAll_flatMap_components]

/-! ## What the usual pattern finds -/

section

open Regex

/-- The names of a text are those of the matches that a search takes. -/
theorem Regex.Successive.names_of_braced {advancing : Bool} {s : Cursor} {ms : List Found}
    (h : Successive Pattern.usual.program advancing s ms) {names : List (List Char)}
    (braced : Braced s.after names) :
    ms.map Found.name = names.map fun w => some (String.ofList w) := by
  induction h generalizing names with
  | @done _ s barren =>
    generalize text : s.after = cs at braced
    cases braced with
    | tail => rfl
    | hole plain name => exact absurd ⟨name, _, text⟩ (barren.free _ _)
  | @next _ s m ms gap _ earliest _ _ ih =>
    obtain ⟨w, name, -, passes, captures⟩ := matchAt_usual.1 earliest.found
    have text : s.after = gap ++ '\x7b' :: (w ++ '\x7d' :: m.stop.after) := by
      rw [earliest.skipped.after, passes.after]
      simp
    generalize text' : s.after = cs at braced
    cases braced with
    | tail plain =>
      rw [text] at text'
      exact absurd (plain '\x7b' (text' ▸ by simp)) not_plain_open
    | @hole gap' w' after names plain' name' _ rest =>
      -- no name stands before the match, so that what is skipped is plain
      have reached : gap.length ≤ gap'.length := Nat.le_of_not_lt fun earlier =>
        earliest.free earlier ⟨name', after, text'⟩
      obtain ⟨more, rfl⟩ : gap <+: gap' :=
        List.prefix_of_prefix_length_le ⟨_, text.symm⟩ ⟨_, text'.symm⟩ reached
      obtain ⟨-, -, behind⟩ := append_brace_inj (List.forall_mem_append.1 plain').1 plain'
        not_plain_open not_plain_open (text.symm.trans text')
      obtain ⟨rfl, -, rfl⟩ := append_brace_inj name.2 name'.2 not_plain_close not_plain_close behind
      rw [List.map_cons, List.map_cons, name_of_captures captures, ih rest]

end

theorem Template.filter_firsts {α : Type} [BEq α] [LawfulBEq α] (p : α → Bool) (xs : List α) :
    (firsts xs).filter p = firsts (xs.filter p) := by
  induction xs with
  | nil => rfl
  | cons x xs ih =>
    rw [firsts, List.filter_cons, List.filter_cons, List.filter_comm, ih]
    by_cases kept : p x = true
    · rw [if_pos kept, if_pos kept, firsts]
    · -- what is refused is not among what is kept
      rw [if_neg kept, if_neg kept, ← ih, List.filter_filter]
      refine List.filter_congr fun y _ => ?_
      by_cases same : y = x
      · simp [same, kept]
      · simp [same]

/-- Dropping what repeats an element is the same before and after the rest is looked through. -/
theorem Template.firsts_eq_eraseDups {α : Type} [BEq α] [LawfulBEq α] (xs : List α) :
    firsts xs = xs.eraseDups := by
  induction h : xs.length using Nat.strong_induction_on generalizing xs with
  | _ n ih =>
    cases xs with
    | nil => rfl
    | cons x xs =>
      have shorter : (xs.filter (!· == x)).length < n := by
        have := List.length_filter_le (!· == x) xs
        simp only [List.length_cons] at h
        omega
      rw [firsts, filter_firsts, ih _ shorter _ rfl, List.eraseDups_cons]

variable {text : String} {names : List (List Char)}

theorem Pattern.names_of_braced (h : Braced text.toList names) :
    usual.names text = (names.map fun w => some (String.ofList w)).eraseDups := by
  rw [names_eq, Template.firsts_eq_eraseDups,
    (Regex.successive_findAll usual.program text).names_of_braced h]

/-! ## The paths of endpoints -/

/-- Every way of a walk has its definition in the table. -/
theorem Walked.exists_definition {path : String} {inherited : Assoc String Attribute}
    {ways : List Way} {table : List Definition} (h : Walked path inherited ways table) {w : Way}
    (hw : w ∈ ways) : ∃ d ∈ table,
      w.endpoint.endpoint = some d.id ∧ d = w.definition path inherited d.id := by
  induction h with
  | nil => exact absurd hw List.not_mem_nil
  | cons first _ ih =>
    rcases List.mem_cons.1 hw with rfl | hw
    · exact ⟨_, List.mem_cons_self, first⟩
    · obtain ⟨d, hd, holds⟩ := ih hw
      exact ⟨d, List.mem_cons_of_mem _ hd, holds⟩

/-- The path of an endpoint has the names of the address and of the segments on the way to it. -/
theorem Describes.braced {address : String} {w : Way} {d : Definition}
    (h : Describes address w d)
    (braced : BracedAll (address.toList :: w.segments.map String.toList) names) :
    Braced d.path.toList names := by
  rw [h.path]
  split
  · rename_i none
    rwa [none, List.map_nil, bracedAll_singleton] at braced
  · exact braced_join.2 braced

/-- **An endpoint requires the names written along the way to it.** Where braces stand only around
names, the names of the path of an endpoint are those of the address followed by those of each
segment, each of them once and in the order of its first place. The path is filled exactly if each
of them has a value with a text. -/
theorem flatten_names [Platform] {t : SchemaTree} {table : List Definition} {w : Way}
    {names : List (List Char)} (h : t.flatten = .ok table) (leads : Leads t.root w)
    (braced : BracedAll (t.address.toList :: w.segments.map String.toList) names) :
    ∃ d ∈ table, Describes t.address w d ∧
      Pattern.usual.names d.path = (names.map fun name => some (String.ofList name)).eraseDups ∧
      ∀ params, (∃ url, Pattern.usual.interpolate d.path params = .ok url) ↔
        ∀ name ∈ names, Supplied params (some (String.ofList name)) ∧
          Worded params (some (String.ofList name)) := by
  obtain ⟨d, hd, id, whole⟩ := (walked_flatten h).exists_definition (mem_ways.2 leads)
  have describes : Describes t.address w d := by
    rw [whole]
    exact w.describes id
  have found := Pattern.names_of_braced (describes.braced braced)
  refine ⟨d, hd, describes, found, fun params => ?_⟩
  rw [Pattern.exists_interpolate_iff, found]
  simp only [List.mem_eraseDups, List.forall_mem_map]

/-- An archive with names in its address, one of which is written again further down, between
separators that a path does not keep. -/
def archive : SchemaTree where
  address := "s://{host}/v{no}//"
  root :=
    { attributes := []
      children :=
        [("//{shelf}",
          { attributes := []
            children :=
              [("", ⟨[], [], some "shelf", none⟩), ("{book}-{no}/", ⟨[], [], some "book", none⟩)]
            endpoint := none
            method := none })]
      endpoint := none
      method := none }

theorem flatten_names_archive : ∃ table, archive.flatten = .ok table ∧ ∃ d ∈ table,
    d.path = "s://{host}/v{no}/{shelf}/{book}-{no}" ∧
    Pattern.usual.names d.path = [some "host", some "no", some "shelf", some "book"] := by
  have names : archive.flatten.map (·.map Definition.id) = .ok ["shelf", "book"] := by
    decide +kernel
  obtain ⟨table, h, -⟩ := Outcome.map_eq_ok.1 names
  have leads : Leads archive.root ⟨[0, 1], ["//{shelf}", "{book}-{no}/"], _, _⟩ :=
    .child rfl rfl (.child rfl rfl (.endpoint rfl))
  have plain (s : String) (h : s.toList.all (Plain ·) = true) : ∀ c ∈ s.toList, Plain c := by
    simpa using h
  have address : Braced "s://{host}/v{no}//".toList ["host".toList, "no".toList] :=
    .hole (plain "s://" (by decide)) (show Braceable "host".toList by decide) (by decide)
      (.hole (plain "/v" (by decide)) (show Braceable "no".toList by decide) (by decide)
        (.tail (plain "//" (by decide))))
  have shelf : Braced "//{shelf}".toList ["shelf".toList] :=
    .hole (plain "//" (by decide)) (show Braceable "shelf".toList by decide) (by decide)
      (.tail (plain "" rfl))
  have book : Braced "{book}-{no}/".toList ["book".toList, "no".toList] :=
    .hole (plain "" rfl) (show Braceable "book".toList by decide) (by decide)
      (.hole (plain "-" (by decide)) (show Braceable "no".toList by decide) (by decide)
        (.tail (plain "/" (by decide))))
  let _ : Platform := .usual
  obtain ⟨d, hd, describes, found, -⟩ :=
    flatten_names h leads (.cons address (.cons shelf (.cons book .nil)))
  exact ⟨table, h, d, hd, describes.path.trans (by decide), found.trans (by decide)⟩

end RouteSchema
