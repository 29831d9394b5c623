import ImportBoundary.Number.Integer
import ImportBoundary.Regex.Fault
import ImportBoundary.Text.Identifier

/-!
# Reading a pattern

The text of a pattern is read as pieces: a character, or a backslash with the character after it.
A reader takes pieces off the front, keeps count of the characters before them, and keeps what it
has learnt about groups and options. A backslash at the end of a pattern is a fault as soon as all
before it has been read.

`Pattern.ofText` is the whole reader: alternatives of sequences of items, then the checks that need
the whole tree.
-/

namespace ImportBoundary.Regex

open Text

/-- A unit of the text of a pattern. -/
inductive Piece
  | char (c : Char)
  | escape (c : Char)
  | dangling
  deriving DecidableEq, Repr

namespace Piece

/-- The pieces of a text. -/
def ofChars : List Char → List Piece
  | [] => []
  | ['\\'] => [.dangling]
  | '\\' :: c :: cs => .escape c :: ofChars cs
  | c :: cs => .char c :: ofChars cs

/-- The characters of a piece. -/
def chars : Piece → List Char
  | .char c => [c]
  | .escape c => ['\\', c]
  | .dangling => ['\\']

def text (p : Piece) : String :=
  String.ofList p.chars

def length (p : Piece) : Nat :=
  p.chars.length

end Piece

/-- How far the reading of a pattern has come. Groups are numbered from 1; `widths` holds an entry
for each, none while the group is open. `outer` is the number of groups before the outermost open
look-behind. `references` are the groups named by number in conditions, with their places. -/
structure Progress where
  rest : List Piece
  position : Nat
  options : Options := {}
  widths : List (Option Width) := []
  names : List (String × Nat) := []
  outer : Option Nat := none
  references : List (Nat × Nat) := []

namespace Progress

/-- The number of the next group. -/
def nextGroup (s : Progress) : Nat :=
  s.widths.length + 1

/-- The width of a group that has been closed. -/
def closedWidth? (s : Progress) (group : Nat) : Option Width :=
  if group = 0 then none else ((s.widths[group - 1]?).getD none)

end Progress

/-- A step of the reader. -/
abbrev Reading (α : Type) := StateT Progress (Except Refusal) α

namespace Reading

/-- A fault `back` characters before the next piece. -/
def fail {α : Type} (problem : Problem) (back : Nat) : Reading α := fun s =>
  .error (.faulty ⟨problem, some (s.position - back)⟩)

/-- The next piece. -/
def peek : Reading (Option Piece) := fun s =>
  .ok (s.rest.head?, s)

/-- The number of characters before the next piece. -/
def position : Reading Nat := fun s =>
  .ok (s.position, s)

/-- A backslash that ends the pattern must not come next. -/
def checkNext : Reading Unit := fun s =>
  match s.rest with
  | .dangling :: _ => .error (.faulty ⟨.danglingBackslash, some s.position⟩)
  | _ => .ok ((), s)

/-- Takes the next piece, if there is one. -/
def next : Reading (Option Piece) := do
  let s ← get
  match s.rest with
  | [] => return none
  | p :: rest =>
    set { s with rest, position := s.position + p.length }
    checkNext
    return some p

/-- Takes the next piece if it is the character. -/
def accept (c : Char) : Reading Bool := do
  if (← peek) = some (.char c) then
    let _ ← next
    return true
  else return false

/-- Takes up to `limit` characters of a class. -/
def takeClass (allowed : Char → Bool) : Nat → Reading (List Char)
  | 0 => return []
  | limit + 1 => do
    match ← peek with
    | some (.char c) =>
      if allowed c then
        let _ ← next
        return c :: (← takeClass allowed limit)
      else return []
    | _ => return []

/-- Takes all characters of a class that come next. -/
def takeWhile (allowed : Char → Bool) : Reading (List Char) := do
  takeClass allowed (← get).rest.length

/-- The characters before a closing one, which is taken too. There must be some. -/
def untilClosing (closing : Char) (what : String) : Reading (List Char) := do
  go [] ((← get).rest.length + 1)
where
  go (before : List Char) : Nat → Reading (List Char)
    | 0 => fail (.missingName what) 0
    | fuel + 1 => do
      match ← next with
      | none =>
        if before.isEmpty then fail (.missingName what) 0
        else fail (.unterminatedName closing) before.length
      | some p =>
        if p = .char closing then
          if before.isEmpty then fail (.missingName what) 1 else return before
        else go (before ++ p.chars) fuel

/-- A new group, open until `closeGroup`. -/
def openGroup (name : Option (List Char)) : Reading Nat := do
  let s ← get
  let group := s.nextGroup
  set { s with widths := s.widths ++ [none] }
  match name with
  | none => return group
  | some name =>
    match s.names.lookup (String.ofList name) with
    | some previous =>
      fail (.redefinedName (String.ofList name) group previous) (name.length + 1)
    | none =>
      modify fun s => { s with names := s.names ++ [(String.ofList name, group)] }
      return group

/-- From here on the group can be referred to. -/
def closeGroup (group : Nat) (body : Node) : Reading Unit :=
  modify fun s => { s with widths := s.widths.set (group - 1) (some body.width) }

/-- Inside a look-behind only groups from before it may be referred to. -/
def checkLookBehind (group : Nat) : Reading Unit := do
  let s ← get
  match s.outer with
  | none => return ()
  | some outer =>
    if (s.closedWidth? group).isNone then fail .openReference 0
    else if outer < group then fail .lookBehindReference 0

/-- A reference to a group, written by `back` characters. -/
def referTo (group back : Nat) : Reading Node := do
  match (← get).closedWidth? group with
  | none => fail .openReference back
  | some width =>
    checkLookBehind group
    return .backref group width

end Reading

open Reading

def isOctalDigit (c : Char) : Bool :=
  '0' ≤ c && c ≤ '7'

def isHexDigit (c : Char) : Bool :=
  (radixDigit? 16 c).isSome

/-- Escapes of a letter that stand for a control character, and the escaped backslash. -/
def controlEscape? : Char → Option Nat
  | 'a' => some 7
  | 'b' => some 8
  | 'f' => some 12
  | 'n' => some 10
  | 'r' => some 13
  | 't' => some 9
  | 'v' => some 11
  | '\\' => some 92
  | _ => none

/-- Escapes that stand for a kind of character. -/
def categoryEscape? : Char → Option SetItem
  | 'd' => some (.category .digit false)
  | 'D' => some (.category .digit true)
  | 's' => some (.category .space false)
  | 'S' => some (.category .space true)
  | 'w' => some (.category .word false)
  | 'W' => some (.category .word true)
  | _ => none

/-- Escapes that stand for a place. -/
def anchorEscape? : Char → Option Anchor
  | 'A' => some .textStart
  | 'Z' => some .textEnd
  | 'b' => some .wordEdge
  | 'B' => some .noWordEdge
  | _ => none

def escapeText (letter : Char) (digits : List Char) : String :=
  String.ofList ('\\' :: letter :: digits)

/-- A character given by a fixed number of hexadecimal digits. -/
def readHexEscape (letter : Char) (digits : Nat) : Reading Nat := do
  let ds ← takeClass isHexDigit digits
  let code := valueInBase 16 ds
  if ds.length ≠ digits then fail (.incompleteEscape (escapeText letter ds)) (ds.length + 2)
  else if 0x10FFFF < code then fail (.badEscape (escapeText letter ds)) (ds.length + 2)
  else return code

/-- A character given by name. What characters are called is not known here, so no name is one. -/
def readNamedEscape : Reading Nat := do
  if ← accept '\x7b' then
    let name ← untilClosing '\x7d' "character name"
    fail (.undefinedCharacter (String.ofList name)) (name.length + 4)
  else fail .missingBrace 0

/-- A character given by up to three octal digits. -/
def octalCode (digits : List Char) : Reading Nat := do
  let code := valueInBase 8 digits
  if 0o377 < code then
    fail (.octalTooLarge (String.ofList ('\\' :: digits))) (digits.length + 1)
  else return code

/-- A character given by an escape that means the same inside and outside a set. -/
def readPlainEscape (letter : Char) : Reading Nat := do
  if letter = 'x' then readHexEscape letter 2
  else if letter = 'u' then readHexEscape letter 4
  else if letter = 'U' then readHexEscape letter 8
  else if letter = 'N' then readNamedEscape
  else if letter.isAlphanum then fail (.badEscape (escapeText letter [])) 2
  else return letter.toNat

/-- An escape inside a set. -/
def readSetEscape (letter : Char) : Reading SetItem := do
  match controlEscape? letter, categoryEscape? letter with
  | some code, _ => return .single code
  | none, some item => return item
  | none, none =>
    if isOctalDigit letter then
      return .single (← octalCode (letter :: (← takeClass isOctalDigit 2)))
    else return .single (← readPlainEscape letter)

/-- A reference to a group by its number, or a character by three octal digits. -/
def readDigitEscape (first : Char) : Reading Node := do
  let digits := first :: (← takeClass isAsciiDigit 1)
  let last ← if digits.length = 2 && digits.all isOctalDigit then takeClass isOctalDigit 1 else pure []
  if !last.isEmpty then return .single (← octalCode (digits ++ last))
  else
    let group := valueInBase 10 digits
    if group < (← get).nextGroup then referTo group (digits.length + 1)
    else fail (.invalidReference group) digits.length

/-- An escape outside a set. -/
def readEscape (letter : Char) : Reading Node := do
  match anchorEscape? letter, categoryEscape? letter, controlEscape? letter with
  | some place, _, _ => return .anchor place
  | none, some item, _ => return .oneOf false [item]
  | none, none, some code => return .single code
  | none, none, none =>
    if letter = '0' then return .single (valueInBase 8 (← takeClass isOctalDigit 2))
    else if isAsciiDigit letter then readDigitEscape letter
    else return .single (← readPlainEscape letter)

/-- The member of a set that a piece starts. -/
def readSetItem : Piece → Reading SetItem
  | .escape letter => readSetEscape letter
  | .char c => return .single c.toNat
  | .dangling => return .single '\\'.toNat

/-- The members of a set up to its closing bracket; `start` is the place after the opening one. -/
def readSet (start : Nat) (items : List SetItem) : Nat → Reading (List SetItem)
  | 0 => return items
  | fuel + 1 => do
    let some first ← next | unterminated
    if first = .char ']' && !items.isEmpty then return items
    let low ← readSetItem first
    if ← accept '-' then
      let some last ← next | unterminated
      if last = .char ']' then return items ++ [low, .single '-'.toNat]
      let high ← readSetItem last
      let back := first.length + 1 + last.length
      match low, high with
      | .single a, .single b =>
        if b < a then fail (.badRange first.text last.text) back
        else readSet start (items ++ [.range a b]) fuel
      | _, _ => fail (.badRange first.text last.text) back
    else readSet start (items ++ [low]) fuel
where
  unterminated {α : Type} : Reading α := do
    fail .unterminatedSet ((← position) - (start - 1))

/-- The tree of a set; one character alone needs none. -/
def setNode (negated : Bool) (items : List SetItem) : Node :=
  match items.eraseDups with
  | [.single code] => if negated then .anyBut code else .single code
  | items => .oneOf negated items

/-- The option that a letter stands for. -/
def option? : Char → Option Options
  | 'i' => some { ignoreCase := true }
  | 'm' => some { multiLine := true }
  | 's' => some { dotAll := true }
  | 'x' => some { verbose := true }
  | 'a' => some { ascii := true }
  | 't' => some { template := true }
  | 'u' => some { unicode := true }
  | _ => none

/-- Reports a piece that is no option letter: as an unknown one if it is a letter. -/
def failOption {α : Type} (p : Piece) (otherwise : Problem) : Reading α :=
  match p with
  | .char c =>
    if isIdentifierStart c && c ≠ '_' then fail .unknownOption 1 else fail otherwise 1
  | _ => fail otherwise p.length

/-- The letters of options to remove, from the first one on, up to the colon. -/
def readRemoved (removed : Options) (p : Piece) : Nat → Reading Options
  | 0 => return removed
  | fuel + 1 => do
    match p with
    | .char 'L' => fail .turnsOffAlphabet 0
    | .char c =>
      match option? c with
      | none => failOption p .missingColon
      | some o =>
        if o.ascii || o.unicode then fail .turnsOffAlphabet 0
        let removed := removed.union o
        match ← next with
        | none => fail .missingColon 0
        | some (.char ':') => return removed
        | some p => readRemoved removed p fuel
    | _ => failOption p .missingColon

/-- The letters of options to add, from the first one on, and the piece that ends them. -/
def readAdded (added : Options) (p : Piece) : Nat → Reading (Options × Char)
  | 0 => return (added, ')')
  | fuel + 1 => do
    match p with
    | .char 'L' => fail .localeOption 0
    | .char c =>
      match option? c with
      | none => failOption p .missingEndOfOptions
      | some o =>
        let added := added.union o
        if (o.ascii || o.unicode) && added.ascii && added.unicode then fail .incompatibleOptions 0
        match ← next with
        | none => fail .missingEndOfOptions 0
        | some (.char ')') => return (added, ')')
        | some (.char ':') => return (added, ':')
        | some (.char '-') => return (added, '-')
        | some p => readAdded added p fuel
    | _ => failOption p .missingEndOfOptions

/-- The options to add and to remove in a group; none when they are set for the whole pattern. -/
def readOptions (first : Char) : Reading (Option (Options × Options)) := do
  let fuel := (← get).rest.length + 1
  let (added, last) ← if first = '-' then pure ({}, '-') else readAdded {} (.char first) fuel
  if last = ')' then
    modify fun s => { s with options := s.options.union added }
    return none
  if added.template then fail .turnsOnGlobal 1
  let removed ←
    if last = '-' then
      match ← next with
      | none => fail .missingOption 0
      | some p =>
        if isOption p then readRemoved {} p fuel else failOption p .missingOption
    else pure {}
  if removed.template then fail .turnsOffGlobal 1
  if !(added.inter removed).isEmpty then fail .onAndOff 1
  return some (added, removed)
where
  isOption : Piece → Bool
    | .char c => (option? c).isSome || c = 'L'
    | _ => false

/-- The number of a group, given by digits in a condition. -/
def readGroupNumber (name : List Char) : Reading Nat := do
  let back := name.length + 1
  match Number.integer? name with
  | some (.ofNat group) =>
    if group = 0 then fail .badGroupNumber back
    if 1073741823 ≤ group then fail (.invalidReference group) back
    modify fun s =>
      if (s.references.lookup group).isSome then s
      else { s with references := s.references ++ [(group, s.position - back)] }
    return group
  | _ => fail (.badName (String.ofList name)) back

/-- The group that a condition asks for. -/
def readCondition : Reading Nat := do
  let name ← untilClosing ')' "group name"
  let group ←
    if isIdentifier name then
      match (← get).names.lookup (String.ofList name) with
      | none => fail (.unknownName (String.ofList name)) (name.length + 1)
      | some group => pure group
    else readGroupNumber name
  checkLookBehind group
  return group

/-- The name of a group or of a reference to one. -/
def readName (closing : Char) : Reading (List Char) := do
  let name ← untilClosing closing "group name"
  if isIdentifier name then return name
  else fail (.badName (String.ofList name)) (name.length + 1)

/-- A reference to a group by its name. -/
def readNamedReference : Reading Node := do
  let name ← readName ')'
  match (← get).names.lookup (String.ofList name) with
  | none => fail (.unknownName (String.ofList name)) (name.length + 1)
  | some group => referTo group (name.length + 1)

/-- Takes the pieces of a comment up to its closing parenthesis. -/
def skipComment (start : Nat) : Nat → Reading Unit
  | 0 => return ()
  | fuel + 1 => do
    match ← next with
    | none => fail .unterminatedComment ((← position) - start)
    | some (.char ')') => return ()
    | some _ => skipComment start fuel

/-- Takes the pieces up to the end of the line. -/
def skipLine : Nat → Reading Unit
  | 0 => return ()
  | fuel + 1 => do
    match ← next with
    | none | some (.char '\n') => return ()
    | some _ => skipLine fuel

/-- A repetition count below the limit; without digits there is none. -/
def readCount (digits : List Char) : Reading (Option Nat) := do
  if digits.isEmpty then return none
  if Number.maxDigits < digits.length then throw (.longRepeat digits.length)
  let count := valueInBase 10 digits
  if unbounded ≤ count then throw .hugeRepeat
  return some count

/-- The bounds of a repetition after its opening brace; none if the brace stands for itself, and
then nothing has been taken. -/
def readBraces : Reading (Option (Nat × Option Nat)) := do
  let here ← get
  if here.rest.head? = some (.char '\x7d') then return none
  let low ← takeWhile isAsciiDigit
  let high ← if ← accept ',' then takeWhile isAsciiDigit else pure low
  if !(← accept '\x7d') then
    set here
    return none
  let least ← readCount low
  let most ← readCount high
  match least, most with
  | some a, some b => if b < a then fail .minAboveMax ((← position) - here.position)
  | _, _ => pure ()
  return some (least.getD 0, most)

/-- The bounds that a quantifier gives. -/
def readQuantifier (sign : Char) : Reading (Option (Nat × Option Nat)) :=
  if sign = '?' then return some (0, some 1)
  else if sign = '*' then return some (0, none)
  else if sign = '+' then return some (1, none)
  else readBraces

/-- The greed of a quantifier, by the sign after it. -/
def readGreed : Reading Greed := do
  if ← accept '?' then return .lazy
  if ← accept '+' then return .possessive
  return .greedy

/-- Makes the last item repeat. `here` is the place after the quantifier's first character. -/
def repeatLast (items : List Node) (here : Nat) (least : Nat) (most : Option Nat) :
    Reading (List Node) := do
  let back := (← position) - here + 1
  match items.reverse with
  | [] | .anchor _ :: _ => fail .nothingToRepeat back
  | .iterate .. :: _ => fail .multipleRepeat back
  | item :: before =>
    return (Node.iterate (← readGreed) least most item :: before).reverse

/-- What the piece after an opening parenthesis and a question mark makes of the group. -/
inductive GroupKind
  | capturing (name : Option (List Char))
  | plain (added removed : Options)
  | atomic
  | reference (node : Node)
  | comment
  | look (behind negated : Bool)
  | conditional (group : Nat)
  | settings

/-- Reads what follows an opening parenthesis at `start`, up to the contents of the group. -/
def readGroupKind (start : Nat) : Reading GroupKind := do
  if !(← accept '?') then return .capturing none
  match ← next with
  | none => fail .unexpectedEnd 0
  | some (.char 'P') =>
    if ← accept '<' then return .capturing (some (← readName '>'))
    else if ← accept '=' then return .reference (← readNamedReference)
    else
      match ← next with
      | none => fail .unexpectedEnd 0
      | some p => fail (.unknownExtension ("P" ++ p.text)) (p.length + 2)
  | some (.char ':') => return .plain {} {}
  | some (.char '#') =>
    skipComment start ((← get).rest.length + 1)
    return .comment
  | some (.char '=') => return .look false false
  | some (.char '!') => return .look false true
  | some (.char '<') =>
    match ← next with
    | none => fail .unexpectedEnd 0
    | some (.char '=') => return .look true false
    | some (.char '!') => return .look true true
    | some p => fail (.unknownExtension ("<" ++ p.text)) (p.length + 2)
  | some (.char '(') => return .conditional (← readCondition)
  | some (.char '>') => return .atomic
  | some p =>
    match p with
    | .char c =>
      if (option? c).isSome || c = 'L' || c = '-' then
        match ← readOptions c with
        | none => return .settings
        | some (added, removed) => return .plain added removed
      else fail (.unknownExtension p.text) (p.length + 1)
    | _ => fail (.unknownExtension p.text) (p.length + 1)

/-- Takes the closing parenthesis of the group that starts at `start`. -/
def closing (start : Nat) : Reading Unit := do
  if !(← accept ')') then fail .unterminatedGroup ((← position) - start)

def isSpaceToSkip : Piece → Bool
  | .char c => c = ' ' || (0x09 ≤ c.toNat && c.toNat ≤ 0x0D)
  | _ => false

/-- Keeps references inside a look-behind to the groups from before it; the outermost decides. -/
def enterLookBehind : Reading Unit :=
  modify fun s => { s with outer := s.outer.or (some s.widths.length) }

/-- Settings for the whole pattern must come before all else. -/
def checkSettings (first : Bool) (items : List Node) (start : Nat) : Reading Unit := do
  if !first || !items.isEmpty then fail .lateOptions ((← position) - start)

mutual

/-- Alternatives up to a closing parenthesis or the end. At the top, options set on the way decide
whether blanks count in the alternatives that follow, and only the first one may set any. -/
def readAlternatives (fuel : Nat) (top verbose first : Bool) : Reading (List Node) :=
  match fuel with
  | 0 => return []
  | fuel + 1 => do
    let items ← readItems fuel verbose first []
    if ← accept '|' then
      let verbose ← if top then pure (← get).options.verbose else pure verbose
      return Node.ofList items :: (← readAlternatives fuel top verbose false)
    else return [Node.ofList items]

/-- The items of a sequence, after those that have been read. -/
def readItems (fuel : Nat) (verbose first : Bool) (items : List Node) : Reading (List Node) :=
  match fuel with
  | 0 => return items
  | fuel + 1 => do
    let start ← position
    match ← peek with
    | none | some (.char '|') | some (.char ')') => return items
    | some p =>
      let _ ← next
      if verbose && isSpaceToSkip p then readItems fuel verbose first items
      else if verbose && p = .char '#' then
        skipLine ((← get).rest.length + 1)
        readItems fuel verbose first items
      else
        match p with
        | .escape letter => readItems fuel verbose first (items ++ [← readEscape letter])
        | .char '.' => readItems fuel verbose first (items ++ [.anyChar])
        | .char '^' => readItems fuel verbose first (items ++ [.anchor .lineStart])
        | .char '$' => readItems fuel verbose first (items ++ [.anchor .lineEnd])
        | .char '[' =>
          let here ← position
          let negated ← accept '^'
          let members ← readSet here [] ((← get).rest.length + 1)
          readItems fuel verbose first (items ++ [setNode negated members])
        | .char '(' =>
          match ← readGroupKind start with
          | .comment => readItems fuel verbose first items
          | .settings =>
            checkSettings first items start
            readItems fuel (← get).options.verbose first items
          | .reference node => readItems fuel verbose first (items ++ [node])
          | kind =>
            let node ← readGroup fuel verbose start kind
            readItems fuel verbose first (items ++ [node])
        | .char c =>
          if c = '*' || c = '+' || c = '?' || c = '\x7b' then
            let here ← position
            match ← readQuantifier c with
            | none => readItems fuel verbose first (items ++ [.single c.toNat])
            | some (least, most) =>
              readItems fuel verbose first (← repeatLast items here least most)
          else readItems fuel verbose first (items ++ [.single c.toNat])
        | .dangling => return items

/-- The contents of the group that starts at `start`, and its closing parenthesis. -/
def readGroup (fuel : Nat) (verbose : Bool) (start : Nat) (kind : GroupKind) : Reading Node :=
  match fuel with
  | 0 => return .empty
  | fuel + 1 => do
    match kind with
    | .capturing name =>
      let group ← openGroup name
      let body := Node.ofAlternatives (← readAlternatives fuel false verbose false)
      closing start
      closeGroup group body
      return .capture group body
    | .plain added removed =>
      let verbose := (verbose || added.verbose) && !removed.verbose
      let body := Node.ofAlternatives (← readAlternatives fuel false verbose false)
      closing start
      return .within added removed body
    | .atomic =>
      let body := Node.ofAlternatives (← readAlternatives fuel false verbose false)
      closing start
      return .atomic body
    | .look behind negated =>
      let outer := (← get).outer
      if behind then enterLookBehind
      let body := Node.ofAlternatives (← readAlternatives fuel false verbose false)
      modify fun s => { s with outer }
      closing start
      return .look behind negated body
    | .conditional group =>
      let found := Node.ofList (← readItems fuel verbose false [])
      let missing ←
        if ← accept '|' then
          let missing ← readItems fuel verbose false []
          if (← peek) = some (.char '|') then fail .manyBranches 0
          pure (Node.ofList missing)
        else pure .empty
      closing start
      return .conditional group found missing
    | .reference node => return node
    | .comment | .settings => return .empty

end

/-- The whole pattern, and the checks that need all of it. -/
def readPattern : Reading Node := do
  checkNext
  let fuel := 4 * ((← get).rest.length + 1)
  let root := Node.ofAlternatives (← readAlternatives fuel true false true)
  let s ← get
  if s.options.ascii && s.options.unicode then throw .bothAlphabets
  if !s.rest.isEmpty then fail .unbalanced 0
  match s.references.find? fun r => s.nextGroup ≤ r.1 with
  | some (group, position) => throw (.faulty ⟨.invalidReference group, some position⟩)
  | none => pure ()
  match root.problem? s.options.template with
  | some problem => throw (.faulty ⟨problem, none⟩)
  | none => return root

/-- The pattern that a text is. -/
def Pattern.ofText (source : String) : Except Refusal Pattern :=
  match readPattern { rest := Piece.ofChars source.toList, position := 0 } with
  | .ok (root, s) => .ok { source, options := s.options, root }
  | .error refusal => .error refusal

end ImportBoundary.Regex
