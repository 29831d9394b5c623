import ImportBoundary.Source.Number
import ImportBoundary.Text.Identifier

/-!
# Tokens of a source

A source is a list of lines, and a line a list of tokens. Indentation counts: tokens of their own
say where a block of lines starts and ends, and where a line ends. Between brackets lines do not
count. Columns are counted in bytes of UTF-8.

`tokensOf` reads as many tokens as it can. Where the text cannot be read on, the list ends in a
`Break` that says why.
-/

namespace ImportBoundary.Source

open Text

/-- What a token is. Names include keywords. -/
inductive Lexeme
  | name (text : String)
  | number
  | text
  | op (text : String)
  | newline
  | indent
  | dedent
  | endMarker
  deriving DecidableEq, Repr

/-- A token and where it starts. -/
structure Token where
  lexeme : Lexeme
  line : Nat
  column : Nat
  deriving DecidableEq, Repr

/-- An opening bracket that has not been closed, and its line. -/
structure Bracket where
  opening : Char
  line : Nat
  deriving DecidableEq, Repr

/-- Why no more tokens can be read: the complaint, if the text itself is malformed there (`loud`) or
is merely laid out badly; and the innermost open bracket. -/
structure Break where
  fault : Fault
  loud : Bool
  bracket : Option Bracket
  deriving DecidableEq, Repr

/-- A point in a text: what follows, the line and the bytes before it in the line. -/
structure Cursor where
  rest : List Char
  line : Nat
  column : Nat

namespace Cursor

/-- The last line that has been begun: at the end of the text the line before the point. -/
def lineBegun (c : Cursor) : Nat :=
  if c.rest.isEmpty then c.line - 1 else c.line

/-- The point after a character, before `rest`. -/
def past (c : Cursor) (ch : Char) (rest : List Char) : Cursor :=
  if ch = '\n' then ⟨rest, c.line + 1, 0⟩ else ⟨rest, c.line, c.column + ch.utf8Size⟩

/-- The point after `count` characters of the line. -/
def advance (c : Cursor) : Nat → Cursor
  | 0 => c
  | count + 1 =>
    match c.rest with
    | [] => c
    | ch :: rest => advance ⟨rest, c.line, c.column + ch.utf8Size⟩ count

/-- The point after the characters of a class that come next in the line. -/
def skipWhile (c : Cursor) (skips : Char → Bool) : Cursor :=
  c.advance (c.rest.takeWhile skips).length

end Cursor

/-- How a line is indented, with tabs as stops of eight columns and, for comparison, of one. -/
structure Indentation where
  columns : Nat
  alternate : Nat
  deriving DecidableEq, Repr

/-- The state of the reader: a point, the indentations of the open blocks, the innermost first, and
the open brackets, the innermost first. -/
structure Reader where
  cursor : Cursor
  blocks : List Indentation := []
  brackets : List Bracket := []

namespace Reader

/-- Stops at the reader's point. -/
def stop (r : Reader) (complaint : Complaint) (loud : Bool) : Break :=
  ⟨⟨complaint, r.cursor.lineBegun⟩, loud, r.brackets.head?⟩

/-- Stops where the text ends too soon: at the innermost open bracket, if there is one. -/
def stopAtEnd (r : Reader) : Break :=
  match r.brackets with
  | b :: _ => ⟨⟨.neverClosed b.opening, b.line⟩, false, some b⟩
  | [] => r.stop .endOfText false

end Reader

/-- The point in the next line after a backslash. -/
def continueLine (r : Reader) : Except Break Cursor :=
  match r.cursor.rest with
  | ['\n'] => .error { r with cursor := r.cursor.past '\n' [] }.stopAtEnd
  | '\n' :: rest => .ok (r.cursor.past '\n' rest)
  | _ => .error (r.stop .badContinuation false)

/-- The indentation of a line of which `column` bytes have been read, and the point after it. The
first line that a backslash continues decides it. -/
def measure (r : Reader) (line column continued : Nat) (i : Indentation) :
    List Char → Except Break (Indentation × Cursor)
  | ' ' :: rest => measure r line (column + 1) continued ⟨i.columns + 1, i.alternate + 1⟩ rest
  | '\t' :: rest =>
    measure r line (column + 1) continued ⟨(i.columns / 8 + 1) * 8, i.alternate + 1⟩ rest
  | '\x0c' :: rest => measure r line (column + 1) continued ⟨0, 0⟩ rest
  | ['\\', '\n'] => .error { r with cursor := ⟨[], line + 1, 0⟩ }.stopAtEnd
  | '\\' :: '\n' :: rest =>
    measure r (line + 1) 0 (if continued = 0 then i.columns else continued) i rest
  | '\\' :: rest => .error ({ r with cursor := ⟨rest, line, column + 1⟩ }.stop .badContinuation false)
  | rest => .ok (if continued = 0 then i else ⟨continued, continued⟩, ⟨rest, line, column⟩)

/-- The most blocks within each other. -/
def maxBlocks : Nat := 99

/-- The most brackets within each other. -/
def maxBrackets : Nat := 200

/-- The indentation of the innermost of some blocks. -/
def innermost (blocks : List Indentation) : Indentation :=
  blocks.head?.getD ⟨0, 0⟩

/-- The tokens by which a line's indentation starts or ends blocks, and the blocks then open. -/
def changeBlocks (r : Reader) (i : Indentation) :
    Except Complaint (List Lexeme × List Indentation) :=
  let current := innermost r.blocks
  if i.columns = current.columns then
    if i.alternate = current.alternate then .ok ([], r.blocks) else .error .mixedIndentation
  else if current.columns < i.columns then
    if maxBlocks ≤ r.blocks.length then .error .tooDeep
    else if i.alternate ≤ current.alternate then .error .mixedIndentation
    else .ok ([.indent], i :: r.blocks)
  else
    let kept := r.blocks.dropWhile fun b => i.columns < b.columns
    let outer := innermost kept
    if i.columns ≠ outer.columns then .error .badDedent
    else if i.alternate ≠ outer.alternate then .error .mixedIndentation
    else .ok (List.replicate (r.blocks.length - kept.length) .dedent, kept)

/-- The point after a text literal, from within it; `size` quotes end it, and `seen` of them have
come. Fails with the line on which it was left open. -/
def textEnd (quote : Char) (size : Nat) (seen : Nat) (c : Cursor) : List Char → Except Nat Cursor
  | [] => .error (c.line - 1)
  | ch :: cs =>
    if size = 1 && ch = '\n' then .error c.line
    else if ch = quote then
      if seen + 1 = size then .ok (c.past ch cs)
      else textEnd quote size (seen + 1) (c.past ch cs) cs
    else if ch = '\\' then
      match cs with
      | [] => .error (c.line - 1)
      | skipped :: rest =>
        textEnd quote size 0 ((c.past ch cs).past skipped rest) rest
    else textEnd quote size 0 (c.past ch cs) cs

/-- The point after a text literal, from its opening quote on. What stands between its quotes, such as
an escape that means nothing, is not looked at. -/
def skipText (r : Reader) (quote : Char) (rest : List Char) : Except Break Cursor :=
  let opened := r.cursor.past quote rest
  let (size, start) :=
    match rest with
    | a :: b :: more =>
      if a = quote && b = quote then (3, (opened.past a (b :: more)).past b more) else (1, opened)
    | _ => (1, opened)
  match textEnd quote size 0 start start.rest with
  | .ok c => .ok c
  | .error line =>
    let complaint := if size = 3 then .unterminatedLongText line else .unterminatedText line
    .error ⟨⟨complaint, r.cursor.line⟩, true, r.brackets.head?⟩

/-- The letters that may stand before the opening quote of a text. -/
def textMarks : List String :=
  ["b", "r", "u", "f", "br", "rb", "fr", "rf"]

/-- The number of marks before a text literal's opening quote, the quote and what follows it, if the
text starts with such. -/
def openingQuote? (cs : List Char) : Option (Nat × Char × List Char) :=
  let marks := cs.takeWhile Char.isAlpha
  match cs.drop marks.length with
  | q :: rest =>
    if (q = '"' || q = '\x27') &&
        (marks.isEmpty || textMarks.contains (String.ofList (marks.map Char.toLower))) then
      some (marks.length, q, rest)
    else none
  | [] => none

/-- The first character of a word that cannot stand where it stands in a name. -/
def misfit? : List Char → Option Char
  | [] => none
  | c :: cs => if isIdentifierStart c then cs.find? fun d => !isIdentifierPart d else some c

/-- Operators of three characters, of two, and of one. -/
def longOperators : List String :=
  ["**=", "...", "//=", "<<=", ">>=", "!=", "%=", "&=", "**", "*=", "+=", "-=", "->", "//", "/=",
    ":=", "<<", "<=", "<>", "==", ">=", ">>", "@=", "^=", "|="]

/-- The operator at the head of a text, the longest there is. -/
def operatorAt (c : Char) (cs : List Char) : List Char :=
  match longOperators.find? fun op => op.toList.isPrefixOf (c :: cs) with
  | some op => op.toList
  | none => [c]

/-- The bracket that a closing bracket closes. -/
def openingOf? : Char → Option Char
  | ')' => some '('
  | ']' => some '['
  | '}' => some '\x7b'
  | _ => none

/-- The brackets that are open after an operator. -/
def bracketsAfter (r : Reader) (op : List Char) : Except Complaint (List Bracket) :=
  match op with
  | [c] =>
    if c = '(' || c = '[' || c = '\x7b' then
      if maxBrackets ≤ r.brackets.length then .error .tooManyBrackets
      else .ok (⟨c, r.cursor.line⟩ :: r.brackets)
    else
      match openingOf? c with
      | none => if isPrintable c then .ok r.brackets else .error (.unprintable c)
      | some opening =>
        match r.brackets with
        | [] => .error (.unmatched c)
        | b :: outer =>
          if b.opening = opening then .ok outer
          else
            .error (.mismatched c b.opening (if b.line = r.cursor.line then none else some b.line))
  | _ => .ok r.brackets

/-- A character that a number can hold. -/
def isNumberChar (c : Char) : Bool :=
  isNameChar c || c == '.' || c == '+' || c == '-'

/-- The number of characters of the number that starts with `c`. -/
def numberLength (c : Char) (cs : List Char) : Except Complaint Nat :=
  let run := cs.takeWhile isNumberChar
  (numberEnd c run).map fun rest => run.length + 1 - rest.length

/-- The word that starts with `c`, if all of it may stand in a name. -/
def wordAt (c : Char) (cs : List Char) : Except Complaint (List Char) :=
  let word := c :: cs.takeWhile isNameChar
  match if word.all (·.toNat < 128) then none else misfit? word with
  | some d => .error (if isPrintable d then .strangeCharacter d else .unprintable d)
  | none => .ok word

/-- The token at the reader's point, where the text goes on with `c`, and the reader after it. -/
def readToken (r : Reader) (c : Char) (cs : List Char) : Except Break (Lexeme × Reader) :=
  let stop (complaint : Complaint) := r.stop complaint true
  match openingQuote? (c :: cs) with
  | some (marks, quote, rest) =>
    (skipText { r with cursor := r.cursor.advance marks } quote rest).map fun cursor =>
      (.text, { r with cursor })
  | none =>
    if isNameChar c && !isAsciiDigit c then
      match wordAt c cs with
      | .error complaint => .error (stop complaint)
      | .ok word =>
        .ok (.name (String.ofList word), { r with cursor := r.cursor.advance word.length })
    else if isAsciiDigit c || (c = '.' && startsWithDigit cs) then
      match numberLength c cs with
      | .error complaint => .error (stop complaint)
      | .ok length => .ok (.number, { r with cursor := r.cursor.advance length })
    else
      let op := operatorAt c cs
      match bracketsAfter r op with
      | .error complaint => .error (stop complaint)
      | .ok brackets =>
        .ok (.op (String.ofList op), { r with cursor := r.cursor.advance op.length, brackets })

/-- Blanks between the tokens of a line. -/
def isSpace (c : Char) : Bool :=
  c == ' ' || c == '\t' || c == '\x0c'

/-- The reader after blanks and a comment. -/
def skipBlanks (r : Reader) : Reader :=
  let cursor := r.cursor.skipWhile isSpace
  if cursor.rest.head? = some '#' then { r with cursor := cursor.skipWhile (· ≠ '\n') }
  else { r with cursor }

/-- A token at the reader's point. -/
def Reader.mark (r : Reader) (lexeme : Lexeme) : Token :=
  ⟨lexeme, r.cursor.lineBegun, r.cursor.column⟩

/-- Where in a line the reader is: at its start, or after its indentation. A blank line has no token
for its end. -/
inductive Stage
  | lineStart
  | inLine (blank : Bool)

/-- The tokens from the reader's point on, after those that have been read, the last of them
first. -/
def tokensFrom (r : Reader) (stage : Stage) (tokens : List Token) :
    Nat → List Token × Option Break
  | 0 => (tokens.reverse, none)
  | fuel + 1 =>
    match stage with
    | .lineStart =>
      match measure r r.cursor.line 0 0 ⟨0, 0⟩ r.cursor.rest with
      | .error b => (tokens.reverse, some b)
      | .ok (indentation, cursor) =>
        let r := { r with cursor }
        let blank := cursor.rest.head? = some '#' || cursor.rest.head? = some '\n'
        if blank || !r.brackets.isEmpty then tokensFrom r (.inLine blank) tokens fuel
        else
          match changeBlocks r indentation with
          | .error complaint => (tokens.reverse, some (r.stop complaint false))
          | .ok (changes, blocks) =>
            tokensFrom { r with blocks } (.inLine false) (changes.map r.mark ++ tokens) fuel
    | .inLine blank =>
      let r := skipBlanks r
      match r.cursor.rest with
      | [] =>
        if r.brackets.isEmpty then ((r.mark .endMarker :: tokens).reverse, none)
        else (tokens.reverse, some r.stopAtEnd)
      | '\n' :: rest =>
        let next := { r with cursor := r.cursor.past '\n' rest }
        if blank || !r.brackets.isEmpty then tokensFrom next .lineStart tokens fuel
        else tokensFrom next .lineStart (r.mark .newline :: tokens) fuel
      | '\\' :: rest =>
        match continueLine { r with cursor := r.cursor.past '\\' rest } with
        | .error b => (tokens.reverse, some b)
        | .ok cursor => tokensFrom { r with cursor } (.inLine blank) tokens fuel
      | c :: cs =>
        match readToken r c cs with
        | .error b => (tokens.reverse, some b)
        | .ok (lexeme, next) => tokensFrom next (.inLine blank) (r.mark lexeme :: tokens) fuel

/-- The text with a newline at its end. -/
def endLine (cs : List Char) : List Char :=
  if cs.getLast? = some '\n' then cs else cs ++ ['\n']

/-- The tokens of a source, as far as it can be read; its lines end with newlines only. -/
def tokensOf (cs : List Char) : List Token × Option Break :=
  let text := endLine cs
  tokensFrom { cursor := ⟨text, 1, 0⟩ } .lineStart [] (2 * text.length + 2)

end ImportBoundary.Source
