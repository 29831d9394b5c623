import ImportBoundary.Regex.Pattern
import ImportBoundary.Text.Quoted

/-!
# What is wrong with a pattern

Each reason why a text is no pattern is a `Problem`. A `Fault` adds the place, which the message
gives as a number of characters and, in a pattern of several lines, as line and column too.
-/

namespace ImportBoundary.Regex

open Text

/-- Why a text is no pattern. -/
inductive Problem
  | danglingBackslash
  | badEscape (escape : String)
  | incompleteEscape (escape : String)
  | octalTooLarge (escape : String)
  | missingBrace
  | missingName (what : String)
  | unterminatedName (closing : Char)
  | undefinedCharacter (name : String)
  | invalidReference (group : Nat)
  | openReference
  | lookBehindReference
  | unterminatedSet
  | badRange (first last : String)
  | minAboveMax
  | nothingToRepeat
  | multipleRepeat
  | unexpectedEnd
  | badName (name : String)
  | unknownName (name : String)
  | redefinedName (name : String) (group previous : Nat)
  | unknownExtension (letters : String)
  | unterminatedComment
  | unterminatedGroup
  | unbalanced
  | badGroupNumber
  | manyBranches
  | lateOptions
  | localeOption
  | incompatibleOptions
  | missingEndOfOptions
  | unknownOption
  | missingOption
  | missingColon
  | turnsOnGlobal
  | turnsOffGlobal
  | turnsOffAlphabet
  | onAndOff
  | looseLookBehind
  | templateRepeat (greed : Greed)
  deriving DecidableEq, Repr

/-- The word for a repetition in a message. -/
def Greed.operator : Greed → String
  | .greedy => "MAX_REPEAT"
  | .lazy => "MIN_REPEAT"
  | .possessive => "POSSESSIVE_REPEAT"

def Problem.message : Problem → String
  | .danglingBackslash => "bad escape (end of pattern)"
  | .badEscape escape => s!"bad escape {escape}"
  | .incompleteEscape escape => s!"incomplete escape {escape}"
  | .octalTooLarge escape => s!"octal escape value {escape} outside of range 0-0o377"
  | .missingBrace => "missing \x7b"
  | .missingName what => s!"missing {what}"
  | .unterminatedName closing => s!"missing {closing}, unterminated name"
  | .undefinedCharacter name => s!"undefined character name {quoted name}"
  | .invalidReference group => s!"invalid group reference {group}"
  | .openReference => "cannot refer to an open group"
  | .lookBehindReference => "cannot refer to group defined in the same lookbehind subpattern"
  | .unterminatedSet => "unterminated character set"
  | .badRange first last => s!"bad character range {first}-{last}"
  | .minAboveMax => "min repeat greater than max repeat"
  | .nothingToRepeat => "nothing to repeat"
  | .multipleRepeat => "multiple repeat"
  | .unexpectedEnd => "unexpected end of pattern"
  | .badName name => s!"bad character in group name {quoted name}"
  | .unknownName name => s!"unknown group name {quoted name}"
  | .redefinedName name group previous =>
    s!"redefinition of group name {quoted name} as group {group}; was group {previous}"
  | .unknownExtension letters => s!"unknown extension ?{letters}"
  | .unterminatedComment => "missing ), unterminated comment"
  | .unterminatedGroup => "missing ), unterminated subpattern"
  | .unbalanced => "unbalanced parenthesis"
  | .badGroupNumber => "bad group number"
  | .manyBranches => "conditional backref with more than two branches"
  | .lateOptions => "global flags not at the start of the expression"
  | .localeOption => "bad inline flags: cannot use 'L' flag with a str pattern"
  | .incompatibleOptions => "bad inline flags: flags 'a', 'u' and 'L' are incompatible"
  | .missingEndOfOptions => "missing -, : or )"
  | .unknownOption => "unknown flag"
  | .missingOption => "missing flag"
  | .missingColon => "missing :"
  | .turnsOnGlobal => "bad inline flags: cannot turn on global flag"
  | .turnsOffGlobal => "bad inline flags: cannot turn off global flag"
  | .turnsOffAlphabet => "bad inline flags: cannot turn off flags 'a', 'u' and 'L'"
  | .onAndOff => "bad inline flags: flag turned on and off"
  | .looseLookBehind => "look-behind requires fixed-width pattern"
  | .templateRepeat greed => s!"internal: unsupported template operator {greed.operator}"

/-- The first part of a tree, from left to right and from the outside in, that cannot be matched:
a look-behind over texts of different lengths, or a repetition under the template option. -/
def Node.problem? (template : Bool) : Node → Option Problem
  | .seq a b | .alt a b | .conditional _ a b => (a.problem? template).or (b.problem? template)
  | .capture _ body | .within _ _ body | .atomic body => body.problem? template
  | .iterate greed _ _ body =>
    if template then some (.templateRepeat greed) else body.problem? template
  | .look behind _ body =>
    if behind && body.width.least != body.width.most then some .looseLookBehind
    else body.problem? template
  | _ => none

/-- A problem and, where it has one, its place in the pattern. -/
structure Fault where
  problem : Problem
  position : Option Nat
  deriving DecidableEq, Repr

/-- The message for a fault of a pattern. Line and column are given when there are several lines. -/
def Fault.message (pattern : List Char) (f : Fault) : String :=
  match f.position with
  | none => f.problem.message
  | some position =>
    let before := pattern.take position
    let line := before.count '\n' + 1
    let column := (before.reverse.takeWhile (· ≠ '\n')).length + 1
    let place := if pattern.contains '\n' then s!" (line {line}, column {column})" else ""
    s!"{f.problem.message} at position {position}{place}"

/-- The reasons why a pattern is not accepted. Only a fault has a place. A pattern may also be nested
deeper than there is room to read it (`exhausted`). -/
inductive Refusal
  | faulty (fault : Fault)
  | hugeRepeat
  | longRepeat (digits : Nat)
  | bothAlphabets
  | exhausted
  deriving DecidableEq, Repr

end ImportBoundary.Regex
