import ImportBoundary.Regex.Pattern
import ImportBoundary.Text.Blank
import ImportBoundary.Text.Digit
import ImportBoundary.Text.LetterCase
import ImportBoundary.Text.Word

/-!
# Matching

A matcher goes through the tree of a pattern with a place in the text and a continuation: what has
to match after it. The first way through the tree whose continuation succeeds is taken, so the order
in which alternatives are tried is the order of the definitions. `Pattern.isFoundIn` asks for a match
that starts anywhere.

Two characters are the same letter in two cases when their lower-case forms are equal or have their
capital in common; a set contains a letter in either case when it contains any of its cases.
-/

namespace ImportBoundary.Regex

open Text

/-- A place in a text: the characters before it, the last one first, and those after it; and the
texts that the groups matched so far. -/
structure Place where
  before : List Char
  after : List Char
  offset : Nat
  groups : List (Nat × List Char)

namespace Place

/-- The place after the next character. -/
def forward (p : Place) : Option (Char × Place) :=
  match p.after with
  | [] => none
  | c :: rest => some (c, { p with before := c :: p.before, after := rest, offset := p.offset + 1 })

/-- The place `count` characters back. -/
def back (p : Place) : Nat → Option Place
  | 0 => some p
  | count + 1 =>
    match p.before with
    | [] => none
    | c :: rest =>
      back { p with before := rest, after := c :: p.after, offset := p.offset - 1 } count

/-- The last text that a group matched. -/
def groupText? (p : Place) (group : Nat) : Option (List Char) :=
  p.groups.lookup group

/-- The group matched what lies between `start` and here. -/
def record (p : Place) (group : Nat) (start : Place) : Place :=
  { p with groups := (group, start.after.take (p.offset - start.offset)) :: p.groups }

/-- The text is empty. -/
def isInEmptyText (p : Place) : Bool :=
  p.before.isEmpty && p.after.isEmpty

end Place

namespace Options

/-- The lower-case form of a code point. -/
def lower (o : Options) (code : Nat) : Nat :=
  if o.ascii then toLowerAscii code else toLower code

/-- The lower-case letters that are the same letter up to case as this lower-case letter. -/
def sameLetters (o : Options) (code : Nat) : List Nat :=
  if o.ascii then [code] else withSharedCapital code

/-- The code points with this lower-case form. -/
def cases (o : Options) (code : Nat) : List Nat :=
  if o.ascii then
    if 0x61 ≤ code && code ≤ 0x7A then [code, code - 32] else [code]
  else casesOf code

/-- The character belongs to the category. -/
def inCategory (o : Options) (kind : Category) (code : Nat) : Bool :=
  match kind with
  | .digit => if o.ascii then 0x30 ≤ code && code ≤ 0x39 else digitClass.contains code
  | .space =>
    if o.ascii then code == 0x20 || (0x09 ≤ code && code ≤ 0x0D) else blankClass.contains code
  | .word => if o.ascii then isAsciiWord code else isWord code

/-- The character is the one of the pattern. -/
def isSingle (o : Options) (wanted code : Nat) : Bool :=
  if o.ignoreCase then (o.sameLetters (o.lower wanted)).contains (o.lower code) else code == wanted

/-- The character is covered by a member of a set. -/
def inItem (o : Options) (item : SetItem) (code : Nat) : Bool :=
  match item with
  | .single wanted => o.isSingle wanted code
  | .range first last =>
    if o.ignoreCase then
      (o.sameLetters (o.lower code)).any fun letter =>
        (o.cases letter).any fun c => first ≤ c && c ≤ last
    else first ≤ code && code ≤ last
  | .category kind negated =>
    o.inCategory kind (if o.ignoreCase then o.lower code else code) != negated

/-- The place lies between a word and something else. -/
def isWordEdge (o : Options) (p : Place) : Bool :=
  let isWordAt (c : Option Char) := (c.map fun c => o.inCategory .word c.toNat).getD false
  isWordAt p.before.head? != isWordAt p.after.head?

/-- The place is one that the anchor matches. A text without characters has no edges at all. -/
def isAnchor (o : Options) (anchor : Anchor) (p : Place) : Bool :=
  match anchor with
  | .lineStart => p.before.isEmpty || (o.multiLine && p.before.head? == some '\n')
  | .lineEnd =>
    p.after.isEmpty || p.after == ['\n'] || (o.multiLine && p.after.head? == some '\n')
  | .textStart => p.before.isEmpty
  | .textEnd => p.after.isEmpty
  | .wordEdge => !p.isInEmptyText && o.isWordEdge p
  | .noWordEdge => !p.isInEmptyText && !o.isWordEdge p

/-- The character is the same up to the options. -/
def isSameChar (o : Options) (a b : Char) : Bool :=
  if o.ignoreCase then o.lower a.toNat == o.lower b.toNat else a == b

end Options

/-- What is left to be matched from a place on. -/
abbrev Continuation := Place → Option Place

/-- A part of a pattern, to be matched from a place on, with what follows it. -/
abbrev Matcher := Continuation → Place → Option Place

/-- Matches one character that satisfies a test. -/
def matchChar (test : Char → Bool) : Matcher := fun k p =>
  match p.forward with
  | some (c, next) => if test c then k next else none
  | none => none

/-- Matches a text character by character. -/
def matchText (same : Char → Char → Bool) : List Char → Matcher
  | [], k, p => k p
  | wanted :: rest, k, p => matchChar (same wanted) (matchText same rest k) p

/-- Matches the body as often as it can, then less often. Beyond the least number, a repetition
starts only where the one before did not start (`last`). -/
def repeatGreedy (body : Matcher) (least : Nat) (most : Option Nat) (k : Continuation) :
    Nat → Nat → Option Nat → Place → Option Place
  | 0, _, _, _ => none
  | fuel + 1, count, last, p =>
    if count < least then body (repeatGreedy body least most k fuel (count + 1) last) p
    else if most.all (count < ·) && last != some p.offset then
      (body (repeatGreedy body least most k fuel (count + 1) (some p.offset)) p).or (k p)
    else k p

/-- Matches the body as seldom as it can, then more often. -/
def repeatLazy (body : Matcher) (least : Nat) (most : Option Nat) (k : Continuation) :
    Nat → Nat → Option Nat → Place → Option Place
  | 0, _, _, _ => none
  | fuel + 1, count, last, p =>
    if count < least then body (repeatLazy body least most k fuel (count + 1) last) p
    else
      (k p).or
        (if most.all (count < ·) && last != some p.offset then
          body (repeatLazy body least most k fuel (count + 1) (some p.offset)) p
        else none)

/-- The place after as many repetitions as the body allows, each taken in its first way only. -/
def repeatOnly (body : Matcher) (least : Nat) (most : Option Nat) :
    Nat → Nat → Option Nat → Place → Option Place
  | 0, _, _, _ => none
  | fuel + 1, count, last, p =>
    if count < least then (body some p).bind (repeatOnly body least most fuel (count + 1) last)
    else if most.all (count < ·) && last != some p.offset then
      match body some p with
      | some next => repeatOnly body least most fuel (count + 1) (some p.offset) next
      | none => some p
    else some p

/-- Repetitions beyond the least number take a character each, but for the last one. -/
def repeatFuel (least : Nat) (p : Place) : Nat :=
  least + p.after.length + 3

namespace Node

/-- Matches the tree. -/
def run (o : Options) : Node → Matcher
  | .empty, k, p => k p
  | .single wanted, k, p => matchChar (fun c => o.isSingle wanted c.toNat) k p
  | .anyBut unwanted, k, p => matchChar (fun c => !o.isSingle unwanted c.toNat) k p
  | .anyChar, k, p => matchChar (fun c => o.dotAll || c != '\n') k p
  | .oneOf negated items, k, p =>
    matchChar (fun c => items.any (o.inItem · c.toNat) != negated) k p
  | .anchor place, k, p => if o.isAnchor place p then k p else none
  | .seq a b, k, p => a.run o (b.run o k) p
  | .alt a b, k, p => (a.run o k p).or (b.run o k p)
  | .capture group body, k, p => body.run o (fun q => k (q.record group p)) p
  | .within added removed body, k, p => body.run (o.inside added removed) k p
  | .atomic body, k, p => (body.run o some p).bind k
  | .iterate greed least most body, k, p =>
    match greed with
    | .greedy => repeatGreedy (body.run o) least most k (repeatFuel least p) 0 none p
    | .lazy => repeatLazy (body.run o) least most k (repeatFuel least p) 0 none p
    | .possessive =>
      (repeatOnly (body.run o) least most (repeatFuel least p) 0 none p).bind k
  | .backref group _, k, p =>
    match p.groupText? group with
    | some text => matchText (fun a b => o.isSameChar a b) text k p
    | none => none
  | .conditional group found missing, k, p =>
    if (p.groupText? group).isSome then found.run o k p else missing.run o k p
  | .look behind negated body, k, p =>
    let start := if behind then p.back body.width.least else some p
    match start.bind (body.run o some) with
    | some q => if negated then none else k { p with groups := q.groups }
    | none => if negated then k p else none

end Node

namespace Pattern

/-- The pattern matches from some place on. -/
def isFoundFrom (pattern : Pattern) (before : List Char) (offset : Nat) : List Char → Bool
  | [] => (pattern.root.run pattern.options some ⟨before, [], offset, []⟩).isSome
  | c :: rest =>
    (pattern.root.run pattern.options some ⟨before, c :: rest, offset, []⟩).isSome ||
      pattern.isFoundFrom (c :: before) (offset + 1) rest

/-- The pattern matches somewhere in the text. -/
def isFoundIn (pattern : Pattern) (text : String) : Bool :=
  pattern.isFoundFrom [] 0 text.toList

end Pattern

end ImportBoundary.Regex
