import RouteSchema.Text.Blank
import RouteSchema.Text.Case
import RouteSchema.Text.Word

/-!
# Regular expressions

The syntax trees of regular expressions and the meaning of their leaves: which characters a class
holds under the flags in force, and how wide the texts are that an expression matches.
-/

namespace RouteSchema.Regex

/-- The flags of an expression. `ascii` and `unicode` say to which characters the classes and the
letter case extend; neither stands for `unicode`. -/
structure Flags where
  ignoreCase : Bool := false
  multiline : Bool := false
  dotAll : Bool := false
  verbose : Bool := false
  ascii : Bool := false
  unicode : Bool := false
  template : Bool := false
  deriving DecidableEq, Repr, Inhabited

/-- The flags of either set. -/
def Flags.union (f g : Flags) : Flags where
  ignoreCase := f.ignoreCase || g.ignoreCase
  multiline := f.multiline || g.multiline
  dotAll := f.dotAll || g.dotAll
  verbose := f.verbose || g.verbose
  ascii := f.ascii || g.ascii
  unicode := f.unicode || g.unicode
  template := f.template || g.template

/-- The flags of the first set that are not in the second. -/
def Flags.without (f g : Flags) : Flags where
  ignoreCase := f.ignoreCase && !g.ignoreCase
  multiline := f.multiline && !g.multiline
  dotAll := f.dotAll && !g.dotAll
  verbose := f.verbose && !g.verbose
  ascii := f.ascii && !g.ascii
  unicode := f.unicode && !g.unicode
  template := f.template && !g.template

/-- The flags inside a group that turns some on and some off. A group that chooses a character
set drops the choice around it. -/
def Flags.scoped (f on off : Flags) : Flags :=
  let f := if on.ascii || on.unicode then { f with ascii := false, unicode := false } else f
  (f.union on).without off

/-- The named classes. -/
inductive Category
  | digit
  | space
  | word
  deriving DecidableEq, Repr

/-- An item of a character class. Characters are held by code point. -/
inductive ClassItem
  | code (n : Nat)
  | range (first last : Nat)
  | category (c : Category) (negated : Bool)
  deriving DecidableEq, Repr

/-- A test of one character. -/
inductive CharTest
  /-- One character, or any but that one. -/
  | code (n : Nat) (negated : Bool)
  /-- Any character; a line feed only if the flags say so. -/
  | any
  /-- A character of a class, or any but those. -/
  | oneOf (items : List ClassItem) (negated : Bool)
  deriving DecidableEq, Repr

/-- A place in the text. -/
inductive Anchor
  | lineStart
  | lineEnd
  | textStart
  | textEnd
  | boundary
  | inside
  deriving DecidableEq, Repr

/-- Which number of rounds is tried first, and whether another one is tried when what follows
fails. -/
inductive Greed
  | greedy
  | lazy
  | possessive
  deriving DecidableEq, Repr

end Regex

/-- A regular expression. -/
inductive Regex
  | empty
  | char (test : Regex.CharTest)
  | anchor (a : Regex.Anchor)
  | cat (r s : Regex)
  | alt (r s : Regex)
  /-- A group that captures what it matches. -/
  | group (index : Nat) (r : Regex)
  /-- A group that does not capture, with flags turned on and off in it. -/
  | flagged (on off : Regex.Flags) (r : Regex)
  /-- A group whose first match is final. -/
  | atomic (r : Regex)
  /-- Rounds of an expression, at least `least` and at most `most`. -/
  | rounds (greed : Regex.Greed) (least : Nat) (most : Option Nat) (r : Regex)
  /-- What follows the place, or what stands in the `width` characters before it, matches or does
  not match. -/
  | look (behind : Option Nat) (negated : Bool) (r : Regex)
  /-- The text that a group captured. -/
  | backref (index : Nat)
  /-- One of two expressions, by whether a group captured. -/
  | cond (index : Nat) (yes no : Regex)
  deriving DecidableEq, Repr, Inhabited

namespace Regex

/-- The lower case of a code point under the flags. -/
def lowerUnder (f : Flags) (n : Nat) : Nat :=
  if f.ascii then (if 0x41 ≤ n && n ≤ 0x5a then n + 32 else n) else Text.lowerCode n

/-- The code points that count as the same letter when case is ignored. -/
def variants (f : Flags) (n : Nat) : List Nat :=
  let l := lowerUnder f n
  if f.ascii then (if 0x61 ≤ l && l ≤ 0x7a then [l, l - 32] else [l])
  else (l :: Text.siblingCodes l).flatMap Text.codesWithLower

/-- A letter, digit or underscore under the flags. -/
def isWord (f : Flags) (c : Char) : Bool :=
  if f.ascii then c.isAlphanum || c == '_' else Text.isWordChar c

/-- Whether a character is of a named class under the flags. -/
def Category.holds (f : Flags) (c : Char) : Category → Bool
  | .digit => if f.ascii then c.isDigit else Text.isDecimalDigit c
  | .space =>
    if f.ascii then c == ' ' || (0x9 ≤ c.toNat && c.toNat ≤ 0xd) else Text.isBlank c
  | .word => isWord f c

/-- Whether a character is covered by an item of a class under the flags. -/
def ClassItem.holds (f : Flags) (c : Char) : ClassItem → Bool
  | .code n => if f.ignoreCase then (variants f c.toNat).contains n else c.toNat == n
  | .range a b =>
    if f.ignoreCase then (variants f c.toNat).any fun n => a ≤ n && n ≤ b
    else a ≤ c.toNat && c.toNat ≤ b
  | .category k negated =>
    let c := if f.ignoreCase then Char.ofNat (lowerUnder f c.toNat) else c
    k.holds f c != negated

/-- Whether a character passes a test under the flags. -/
def CharTest.holds (f : Flags) (c : Char) : CharTest → Bool
  | .code n negated => (ClassItem.code n).holds f c != negated
  | .any => f.dotAll || c != '\n'
  | .oneOf items negated => (items.any fun i => i.holds f c) != negated

/-- The least and the greatest width of a match; no greatest width if there is no bound. -/
structure Width where
  least : Nat
  most : Option Nat
  deriving DecidableEq, Repr

/-- The width of one after the other. -/
def Width.add (a b : Width) : Width :=
  ⟨a.least + b.least, do return (← a.most) + (← b.most)⟩

/-- The width of either. -/
def Width.either (a b : Width) : Width :=
  ⟨min a.least b.least, do return max (← a.most) (← b.most)⟩

/-- The width of a number of rounds. -/
def Width.times (w : Width) (least : Nat) (most : Option Nat) : Width :=
  ⟨w.least * least,
    match w.most, most with
    | some 0, _ => some 0
    | _, some 0 => some 0
    | some n, some m => some (n * m)
    | _, _ => none⟩

/-- The width of the texts an expression matches, given the widths of the groups. -/
def width (groups : Nat → Width) : Regex → Width
  | .empty | .anchor _ | .look _ _ _ => ⟨0, some 0⟩
  | .char _ => ⟨1, some 1⟩
  | .cat r s => (width groups r).add (width groups s)
  | .alt r s => (width groups r).either (width groups s)
  | .group _ r | .flagged _ _ r | .atomic r => width groups r
  | .rounds _ least most r => (width groups r).times least most
  | .backref n => groups n
  | .cond _ yes no => (width groups yes).either (width groups no)

end Regex

end RouteSchema
