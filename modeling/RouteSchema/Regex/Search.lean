import RouteSchema.Regex.Reader

/-!
# Searching with regular expressions

Matching by backtracking. An expression is run at a place of the text with what to do after it; it
tries its ways in order and takes the first after which the rest succeeds. Rounds stop when a round
beyond the required ones would start where the one before it started.

* `Regex.run` runs an expression.
* `Program.findAll` lists the matches from left to right. They do not overlap; an empty match may
  follow a match but not an empty one at the same place.
-/

namespace RouteSchema.Regex

/-- A place in a text: the characters before it, the nearest first, and those after it. -/
structure Cursor where
  before : List Char
  after : List Char
  deriving DecidableEq, Repr

namespace Cursor

/-- The number of characters before a place. -/
def pos (s : Cursor) : Nat := s.before.length

/-- The start of a text. -/
def start (cs : List Char) : Cursor := ⟨[], cs⟩

/-- The place one character on. -/
def next? (s : Cursor) : Option (Char × Cursor) :=
  match s.after with
  | [] => none
  | c :: cs => some (c, ⟨c :: s.before, cs⟩)

/-- The place a number of characters back. -/
def back? : Nat → Cursor → Option Cursor
  | 0, s => some s
  | n + 1, s =>
    match s.before with
    | [] => none
    | c :: cs => back? n ⟨cs, c :: s.after⟩

/-- The characters from a place to a later one. -/
def between (s e : Cursor) : List Char := (e.before.take (e.pos - s.pos)).reverse

end Cursor

/-- The texts that groups captured, the latest first. -/
abbrev Captures := List (Nat × List Char)

/-- The text that a group captured last. -/
def Captures.get? (caps : Captures) (n : Nat) : Option (List Char) :=
  (caps.find? fun (m, _) => m == n).map Prod.snd

/-- How a match ends: at a place, with captures. -/
abbrev Outcome := Option (Cursor × Captures)

/-- Whether a place is as an anchor says. -/
def Anchor.holds (f : Flags) (s : Cursor) : Anchor → Bool
  | .textStart => s.before.isEmpty
  | .lineStart => s.before.isEmpty || (f.multiline && s.before.head? == some '\n')
  | .textEnd => s.after.isEmpty
  | .lineEnd =>
    s.after.isEmpty || s.after == ['\n'] || (f.multiline && s.after.head? == some '\n')
  | .boundary => atBoundary f s
  | .inside => !(s.before.isEmpty && s.after.isEmpty) && !atBoundary f s
where
  /-- A word character on one side only. -/
  atBoundary (f : Flags) (s : Cursor) : Bool :=
    (s.before.head?.any (isWord f)) != (s.after.head?.any (isWord f))

/-- Rounds of a step. `count` rounds are done, and the last optional one started at `last`. -/
def repeated (step : Cursor → Captures → (Cursor → Captures → Outcome) → Outcome)
    (greed : Greed) (least : Nat) (most : Option Nat) :
    Nat → Nat → Option Nat → Cursor → Captures → (Cursor → Captures → Outcome) → Outcome
  | 0, _, _, s, caps, k => k s caps
  | fuel + 1, count, last, s, caps, k =>
    let again (last : Option Nat) : Outcome :=
      step s caps fun s caps => repeated step greed least most fuel (count + 1) last s caps k
    if count < least then again last
    else
      let may := most.all (count < ·) && last != some s.pos
      match greed with
      | .lazy =>
        match k s caps with
        | some r => some r
        | none => if may then again (some s.pos) else none
      | _ =>
        match if may then again (some s.pos) else none with
        | some r => some r
        | none => k s caps

/-- Rounds of a step, each of which is final once it is done. -/
def repeatedFinal (step : Cursor → Captures → Outcome) (least : Nat) (most : Option Nat) :
    Nat → Nat → Option Nat → Cursor → Captures → Outcome
  | 0, _, _, s, caps => some (s, caps)
  | fuel + 1, count, last, s, caps =>
    if count < least then
      match step s caps with
      | some (s, caps) => repeatedFinal step least most fuel (count + 1) last s caps
      | none => none
    else if most.all (count < ·) && last != some s.pos then
      match step s caps with
      | some (s', caps') =>
        repeatedFinal step least most fuel (count + 1) (some s.pos) s' caps'
      | none => some (s, caps)
    else some (s, caps)

/-- The place after a given text, if it stands at a place. -/
def skipText? (f : Flags) : List Char → Cursor → Option Cursor
  | [], s => some s
  | c :: cs, s =>
    match s.next? with
    | some (d, s) =>
      let same :=
        if f.ignoreCase then lowerUnder f c.toNat == lowerUnder f d.toNat else c == d
      if same then skipText? f cs s else none
    | none => none

/-- Runs an expression at a place, with what to do after it. -/
def run (f : Flags) : Regex → Cursor → Captures → (Cursor → Captures → Outcome) → Outcome
  | .empty, s, caps, k => k s caps
  | .char test, s, caps, k =>
    match s.next? with
    | some (c, s) => if test.holds f c then k s caps else none
    | none => none
  | .anchor a, s, caps, k => if a.holds f s then k s caps else none
  | .cat r t, s, caps, k => run f r s caps fun s caps => run f t s caps k
  | .alt r t, s, caps, k =>
    match run f r s caps k with
    | some result => some result
    | none => run f t s caps k
  | .group n r, s, caps, k => run f r s caps fun e caps => k e ((n, s.between e) :: caps)
  | .flagged on off r, s, caps, k => run (f.scoped on off) r s caps k
  | .atomic r, s, caps, k =>
    match run f r s caps fun s caps => some (s, caps) with
    | some (s, caps) => k s caps
    | none => none
  | .rounds .possessive least most r, s, caps, k =>
    match repeatedFinal (fun s caps => run f r s caps fun s caps => some (s, caps)) least most
        (least + s.after.length + 2) 0 none s caps with
    | some (s, caps) => k s caps
    | none => none
  | .rounds greed least most r, s, caps, k =>
    repeated (fun s caps k => run f r s caps k) greed least most
      (least + s.after.length + 2) 0 none s caps k
  | .look none negated r, s, caps, k =>
    match run f r s caps fun s caps => some (s, caps) with
    | some (_, caps) => if negated then none else k s caps
    | none => if negated then k s caps else none
  | .look (some width) negated r, s, caps, k =>
    match (s.back? width).bind fun b => run f r b caps fun s caps => some (s, caps) with
    | some (_, caps) => if negated then none else k s caps
    | none => if negated then k s caps else none
  | .backref n, s, caps, k =>
    match caps.get? n with
    | some cs =>
      match skipText? f cs s with
      | some s => k s caps
      | none => none
    | none => none
  | .cond n yes no, s, caps, k =>
    if (caps.get? n).isSome then run f yes s caps k else run f no s caps k

/-- A match: where it starts and ends, and what its groups captured. -/
structure Found where
  start : Cursor
  stop : Cursor
  captures : Captures
  deriving DecidableEq, Repr

/-- The match that starts at a place; `advancing` refuses an empty one. -/
def Program.matchAt (p : Program) (advancing : Bool) (s : Cursor) : Option Found :=
  (run p.flags p.tree s [] fun e caps =>
    if advancing && e.pos == s.pos then none else some (e, caps)).map
      fun (e, caps) => ⟨s, e, caps⟩

/-- The first match that starts at a place or after it. -/
def Program.find (p : Program) (advancing : Bool) (before : List Char) :
    (after : List Char) → Option Found
  | [] => p.matchAt advancing ⟨before, []⟩
  | c :: cs =>
    match p.matchAt advancing ⟨before, c :: cs⟩ with
    | some m => some m
    | none => p.find false (c :: before) cs

/-- The matches from a place on. Every one of them moves on or makes the next one move on, which
bounds their number. -/
def Program.findFrom (p : Program) : Nat → Bool → Cursor → List Found
  | 0, _, _ => []
  | fuel + 1, advancing, s =>
    match p.find advancing s.before s.after with
    | some m => m :: p.findFrom fuel (m.stop.pos == m.start.pos) m.stop
    | none => []

/-- The matches in a text from left to right. -/
def Program.findAll (p : Program) (text : String) : List Found :=
  p.findFrom (2 * text.toList.length + 2) false (.start text.toList)

end RouteSchema.Regex
