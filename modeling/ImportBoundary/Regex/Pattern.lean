/-!
# Regular expressions

The syntax tree of a pattern. Characters are code points, so that a pattern can name one that no
text holds. Options may be switched for the whole pattern or for a part of it (`Node.within`), which
is why a tree says nothing about letter case or lines by itself: whoever matches it carries the
options along. `Node.width` bounds the length of what a tree can match.
-/

namespace ImportBoundary.Regex

/-- The options under which a part of a pattern is matched. -/
structure Options where
  ignoreCase : Bool := false
  multiLine : Bool := false
  dotAll : Bool := false
  verbose : Bool := false
  ascii : Bool := false
  unicode : Bool := false
  template : Bool := false
  deriving DecidableEq, Repr

namespace Options

/-- Options that are set in either. -/
def union (a b : Options) : Options :=
  { ignoreCase := a.ignoreCase || b.ignoreCase
    multiLine := a.multiLine || b.multiLine
    dotAll := a.dotAll || b.dotAll
    verbose := a.verbose || b.verbose
    ascii := a.ascii || b.ascii
    unicode := a.unicode || b.unicode
    template := a.template || b.template }

/-- Options that are set in `a` but not in `b`. -/
def without (a b : Options) : Options :=
  { ignoreCase := a.ignoreCase && !b.ignoreCase
    multiLine := a.multiLine && !b.multiLine
    dotAll := a.dotAll && !b.dotAll
    verbose := a.verbose && !b.verbose
    ascii := a.ascii && !b.ascii
    unicode := a.unicode && !b.unicode
    template := a.template && !b.template }

/-- Options that are set in both. -/
def inter (a b : Options) : Options :=
  a.without (a.without b)

/-- No option is set. -/
def isEmpty (a : Options) : Bool :=
  a == {}

/-- The alphabets exclude each other, so naming one drops the other. -/
def withAlphabetOf (a added : Options) : Options :=
  if added.ascii || added.unicode then { a with ascii := false, unicode := false } else a

/-- The options inside a part that adds some and removes others. -/
def inside (a added removed : Options) : Options :=
  ((a.withAlphabetOf added).union added).without removed

end Options

/-- The kinds of character that have an escape of their own. -/
inductive Category
  | digit
  | space
  | word
  deriving DecidableEq, Repr

/-- One member of a character set. -/
inductive SetItem
  | single (code : Nat)
  | range (first last : Nat)
  | category (kind : Category) (negated : Bool)
  deriving DecidableEq, Repr

/-- A place in the text, matched without taking a character. -/
inductive Anchor
  | lineStart
  | lineEnd
  | textStart
  | textEnd
  | wordEdge
  | noWordEdge
  deriving DecidableEq, Repr

/-- The order in which numbers of repetitions are tried. Possessive: the most, and no other. -/
inductive Greed
  | greedy
  | lazy
  | possessive
  deriving DecidableEq, Repr

/-- Bounds for the number of characters that a part of a pattern matches. -/
structure Width where
  least : Nat
  most : Nat
  deriving DecidableEq, Repr

/-- Repetition counts from here on are refused; as a bound it stands for "any number". -/
def unbounded : Nat := 4294967295

namespace Width

/-- Bounds are not told apart beyond the largest repetition count. -/
def clamp (least most : Nat) : Width :=
  ⟨min least (unbounded - 1), min most unbounded⟩

def add (a b : Width) : Width :=
  clamp (a.least + b.least) (a.most + b.most)

def either (a b : Width) : Width :=
  ⟨min a.least b.least, max a.most b.most⟩

def repeated (a : Width) (least most : Nat) : Width :=
  clamp (a.least * least) (a.most * most)

end Width

/-- The syntax tree of a pattern. -/
inductive Node
  | empty
  | single (code : Nat)
  | anyBut (code : Nat)
  | anyChar
  | oneOf (negated : Bool) (items : List SetItem)
  | anchor (place : Anchor)
  | seq (first second : Node)
  | alt (first second : Node)
  | capture (group : Nat) (body : Node)
  | within (added removed : Options) (body : Node)
  | atomic (body : Node)
  | iterate (greed : Greed) (least : Nat) (most : Option Nat) (body : Node)
  | backref (group : Nat) (width : Width)
  | conditional (group : Nat) (found missing : Node)
  | look (behind negated : Bool) (body : Node)
  deriving Repr

namespace Node

/-- How many characters the tree can match. -/
def width : Node → Width
  | .empty | .anchor _ | .look .. => ⟨0, 0⟩
  | .single _ | .anyBut _ | .anyChar | .oneOf .. => ⟨1, 1⟩
  | .seq a b => a.width.add b.width
  | .alt a b => a.width.either b.width
  | .capture _ body | .within _ _ body | .atomic body => body.width
  | .iterate _ least most body => body.width.repeated least (most.getD unbounded)
  | .backref _ w => w
  | .conditional _ found missing => found.width.either missing.width

/-- The tree of parts one after the other. -/
def ofList : List Node → Node
  | [] => .empty
  | [n] => n
  | n :: ns => .seq n (ofList ns)

/-- The tree of alternatives, the first one tried first. -/
def ofAlternatives : List Node → Node
  | [] => .empty
  | [n] => n
  | n :: ns => .alt n (ofAlternatives ns)

end Node

/-- A pattern: its text, its tree and the options it sets for the whole of it. -/
structure Pattern where
  source : String
  options : Options
  root : Node

end ImportBoundary.Regex
