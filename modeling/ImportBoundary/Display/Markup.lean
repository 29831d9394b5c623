import ImportBoundary.Display.Emoji
import ImportBoundary.Display.Style

/-!
# Markup

Text with tags in square brackets, which say how the text between them looks, and with names of emoji
between colons. `plain` takes the tags out and puts the emoji in; the looks are lost, since nothing
here is shown in colour. A tag begins with a small letter, `#`, `@` or, to close another, with a
slash; other brackets are text, and so is a tag after a backslash. The parameters of a tag are passed
over, also those of a tag with `@`, from which a terminal may want to learn what a click does.
-/

namespace ImportBoundary.Display

open Text

namespace Markup

/-! ## Emoji -/

/-- The name of an emoji and how it asks to be shown. -/
def splitVariant (name : List Char) : List Char × List Char :=
  let ends (suffix : String) := suffix.toList.isSuffixOf name
  if ends "-emoji" then (name.take (name.length - 6), [Char.ofNat 0xFE0F])
  else if ends "-text" then (name.take (name.length - 5), [Char.ofNat 0xFE0E])
  else (name, [])

/-- The emoji of a name between colons. -/
def emojiOf? (name : List Char) : Option (List Char) :=
  let (base, variant) := splitVariant name
  (emoji? (String.ofList (Style.lowered base))).map fun e => e.toList ++ variant

/-- A text after a colon: what goes up to the next colon, when no blank comes first, and what follows
that colon. -/
def untilColon? (cs : List Char) : Option (List Char × List Char) :=
  let name := cs.takeWhile fun c => c ≠ ':' && !isBlank c
  match cs.drop name.length with
  | ':' :: rest => some (name, rest)
  | _ => none

/-- The text with emoji in the place of their names. -/
def replaceEmojiIn : Nat → List Char → List Char
  | 0, cs => cs
  | _, [] => []
  | fuel + 1, c :: cs =>
    if c = ':' then
      match untilColon? cs with
      | some (name, rest) =>
        (emojiOf? name).getD (':' :: name ++ [':']) ++ replaceEmojiIn fuel rest
      | none => c :: replaceEmojiIn fuel cs
    else c :: replaceEmojiIn fuel cs

/-- The text with emoji in the place of their names. -/
def replaceEmoji (cs : List Char) : List Char :=
  replaceEmojiIn cs.length cs

/-! ## Tags -/

/-- A tag: its name, and its parameters after an equals sign. -/
structure Tag where
  name : List Char
  parameters : Option (List Char)
  deriving DecidableEq, Repr

/-- The tag between brackets. -/
def Tag.text (t : Tag) : List Char :=
  match t.parameters with
  | some p => '[' :: t.name ++ '=' :: p ++ [']']
  | none => '[' :: t.name ++ [']']

/-- A stretch of a text: characters that are shown, or a tag and its position. -/
inductive Piece
  | text (chars : List Char)
  | tag (position : Nat) (tag : Tag)
  deriving Repr

/-- The character may begin a tag. -/
def startsTag (c : Char) : Bool :=
  ('a' ≤ c && c ≤ 'z') || c = '#' || c = '/' || c = '@'

/-- A text after an opening bracket: the tag, if it is one, and what follows its closing bracket. -/
def tagBody? (cs : List Char) : Option (List Char × List Char) :=
  match cs with
  | [] => none
  | c :: _ =>
    if startsTag c then
      let body := cs.takeWhile fun d => d ≠ ']' && d ≠ '['
      match cs.drop body.length with
      | ']' :: rest => some (body, rest)
      | _ => none
    else none

/-- A tag's body as a tag. -/
def tagOf (body : List Char) : Tag :=
  let name := body.takeWhile (· ≠ '=')
  match body.drop name.length with
  | _ :: parameters => ⟨name, some parameters⟩
  | [] => ⟨name, none⟩

/-- Characters that are shown as one piece, unless there are none. -/
def textPiece (chars : List Char) : List Piece :=
  if chars.isEmpty then [] else [.text chars]

/-- The pieces of the text from a position on. `shown` (last character first) comes before it, and
has not been made a piece yet. Backslashes before a tag stand for half as many; one that is left over
makes the tag text. -/
def piecesFrom (position : Nat) (shown : List Char) : Nat → List Char → List Piece
  | 0, cs => textPiece (shown.reverse ++ cs)
  | _, [] => textPiece shown.reverse
  | fuel + 1, c :: cs =>
    let slashes := (c :: cs).takeWhile (· = '\\')
    let count := slashes.length
    match (c :: cs).drop count with
    | '[' :: after =>
      match tagBody? after with
      | some (body, rest) =>
        let next := position + count + body.length + 2
        let before := textPiece shown.reverse ++ textPiece (List.replicate (count / 2) '\\')
        if count % 2 = 1 then
          before ++ .text ('[' :: body ++ [']']) :: piecesFrom next [] fuel rest
        else before ++ .tag (position + count) (tagOf body) :: piecesFrom next [] fuel rest
      | none => piecesFrom (position + count + 1) ('[' :: slashes ++ shown) fuel after
    | _ =>
      if count = 0 then piecesFrom (position + 1) (c :: shown) fuel cs
      else piecesFrom (position + count) (slashes ++ shown) fuel ((c :: cs).drop count)

/-- The pieces of a text. -/
def pieces (cs : List Char) : List Piece :=
  piecesFrom 0 [] (cs.length + 1) cs

/-- What is wrong with markup: a tag that closes nothing, or whose name cannot be used. -/
inductive Fault
  | noMatch (tag : Tag) (position : Nat)
  | nothingOpen (position : Nat)
  | badNumber (bad : BadNumber)
  deriving DecidableEq, Repr

def Fault.message : Fault → String
  | .noMatch tag position =>
    s!"closing tag '{String.ofList tag.text}' at position {position} doesn't match any open tag"
  | .nothingOpen position => s!"closing tag '[/]' at position {position} has nothing to close"
  | .badNumber bad => bad.message

/-- The open tags after one more, the last one first; each is known by the normal form of its
name. -/
def openTags (tags : List (List Char)) (position : Nat) (tag : Tag) :
    Except Fault (List (List Char)) :=
  match tag.name with
  | '/' :: name =>
    if (dropBlank name).isEmpty then
      match tags with
      | [] => .error (.nothingOpen position)
      | _ :: tags => .ok tags
    else do
      let name ← (Style.normalize (dropBlank name)).mapError .badNumber
      if tags.contains name then return tags.erase name else throw (.noMatch tag position)
  | name => do
    let name ← (Style.normalize name).mapError .badNumber
    return name :: tags

/-- A text without the backslashes before its brackets. -/
def unescape : List Char → List Char
  | '\\' :: '[' :: cs => '[' :: unescape cs
  | c :: cs => c :: unescape cs
  | [] => []

/-- What the pieces show, when some tags are open. -/
def plainFrom (tags : List (List Char)) : List Piece → Except Fault (List Char)
  | [] => .ok []
  | .text chars :: rest => do
    return replaceEmoji (unescape chars) ++ (← plainFrom tags rest)
  | .tag position tag :: rest => do plainFrom (← openTags tags position tag) rest

/-- What markup shows. -/
def plain (cs : List Char) : Except Fault (List Char) :=
  plainFrom [] (pieces cs)

end Markup

end ImportBoundary.Display
