import ImportBoundary.Json.Basic
import ImportBoundary.Number.Integer

/-!
# Reading JSON

A reader for one JSON document, with the extensions `NaN`, `Infinity` and `-Infinity`. Each
function takes the text that is left and gives the value it starts with and the text after it. A
failure carries the text at which it was noticed, so that its place is the length of what had been
read (`ReadFailure.ofStop`).
-/

namespace ImportBoundary.Json

open Text

/-- What a text that is no JSON document lacks. -/
inductive Defect
  | value
  | name
  | colon
  | comma
  | closingQuote
  | plainCharacter
  | knownEscape
  | hexEscape
  | endOfText
  | noByteOrderMark
  deriving DecidableEq, Repr

def Defect.message : Defect → String
  | .value => "Expecting value"
  | .name => "Expecting property name enclosed in double quotes"
  | .colon => "Expecting ':' delimiter"
  | .comma => "Expecting ',' delimiter"
  | .closingQuote => "Unterminated string starting at"
  | .plainCharacter => "Invalid control character at"
  | .knownEscape => "Invalid \\escape"
  | .hexEscape => "Invalid \\uXXXX escape"
  | .endOfText => "Extra data"
  | .noByteOrderMark => "Unexpected UTF-8 BOM (decode using utf-8-sig)"

/-- Why reading stopped: a defect and the text from there on, or an integer of too many digits. -/
inductive Stop
  | lacks (defect : Defect) (rest : List Char)
  | longInteger (digits : Nat)

/-- White space between the tokens of a document. -/
def isGap (c : Char) : Bool :=
  c == ' ' || c == '\t' || c == '\n' || c == '\r'

def skipGap (cs : List Char) : List Char :=
  cs.dropWhile isGap

/-- The character that a single-letter escape stands for. -/
def escaped? : Char → Option Char
  | '"' => some '"'
  | '\\' => some '\\'
  | '/' => some '/'
  | 'b' => some '\x08'
  | 'f' => some '\x0c'
  | 'n' => some '\n'
  | 'r' => some '\r'
  | 't' => some '\t'
  | _ => none

/-- The number written by four hexadecimal digits. -/
def hexCode? (a b c d : Char) : Option Nat := do
  let a ← radixDigit? 16 a
  let b ← radixDigit? 16 b
  let c ← radixDigit? 16 c
  let d ← radixDigit? 16 d
  return ((a * 16 + b) * 16 + c) * 16 + d

def isHighSurrogate (code : Nat) : Bool :=
  0xD800 ≤ code && code < 0xDC00

def isLowSurrogate (code : Nat) : Bool :=
  0xDC00 ≤ code && code < 0xE000

/-- The character of a code. Texts are made of characters: half of a pair on its own, which is none,
becomes U+FFFD. -/
def charOfCode (code : Nat) : Char :=
  if isHighSurrogate code || isLowSurrogate code then '\uFFFD' else Char.ofNat code

/-- The character beyond the basic plane that a pair of surrogates stands for. -/
def charOfPair (high low : Nat) : Char :=
  Char.ofNat (0x10000 + (high - 0xD800) * 0x400 + (low - 0xDC00))

/-- The characters of a string up to its closing quote. `opening` is the text from the opening
quote on. -/
def readString (opening : List Char) : List Char → Except Stop (List Char × List Char)
  | [] => .error (.lacks .closingQuote opening)
  | '"' :: rest => .ok ([], rest)
  | ['\\'] => .error (.lacks .closingQuote opening)
  | '\\' :: 'u' :: a :: b :: c :: d :: '\\' :: 'u' :: a' :: b' :: c' :: d' :: rest =>
    match hexCode? a b c d with
    | none => .error (.lacks .hexEscape
        ('u' :: a :: b :: c :: d :: '\\' :: 'u' :: a' :: b' :: c' :: d' :: rest))
    | some high =>
      if isHighSurrogate high && !rest.isEmpty then
        match hexCode? a' b' c' d' with
        | none => .error (.lacks .hexEscape ('u' :: a' :: b' :: c' :: d' :: rest))
        | some low =>
          if isLowSurrogate low then
            (readString opening rest).map fun r => (charOfPair high low :: r.1, r.2)
          else
            (readString opening ('\\' :: 'u' :: a' :: b' :: c' :: d' :: rest)).map fun r =>
              (charOfCode high :: r.1, r.2)
      else
        (readString opening ('\\' :: 'u' :: a' :: b' :: c' :: d' :: rest)).map fun r =>
          (charOfCode high :: r.1, r.2)
  | '\\' :: 'u' :: a :: b :: c :: d :: next :: rest =>
    match hexCode? a b c d with
    | none => .error (.lacks .hexEscape ('u' :: a :: b :: c :: d :: next :: rest))
    | some code =>
      (readString opening (next :: rest)).map fun r => (charOfCode code :: r.1, r.2)
  | '\\' :: 'u' :: rest => .error (.lacks .hexEscape ('u' :: rest))
  | '\\' :: letter :: rest =>
    match escaped? letter with
    | none => .error (.lacks .knownEscape ('\\' :: letter :: rest))
    | some c => (readString opening rest).map fun r => (c :: r.1, r.2)
  | c :: rest =>
    if c.toNat < 0x20 then .error (.lacks .plainCharacter (c :: rest))
    else (readString opening rest).map fun r => (c :: r.1, r.2)

/-- The integer part of a number: zero alone, or digits that do not start with zero. -/
def wholeDigits : List Char → Option (List Char × List Char)
  | '0' :: rest => some (['0'], rest)
  | c :: rest =>
    if isAsciiDigit c then some (c :: rest.takeWhile isAsciiDigit, rest.dropWhile isAsciiDigit)
    else none
  | [] => none

/-- The digits after a decimal point; without digits the point is no part of the number. -/
def fractionDigits : List Char → Option (List Char × List Char)
  | '.' :: c :: rest =>
    if isAsciiDigit c then some (c :: rest.takeWhile isAsciiDigit, rest.dropWhile isAsciiDigit)
    else none
  | _ => none

/-- The digits of an exponent, at least one. -/
def exponentDigits (negative : Bool) : List Char → Option (Int × List Char)
  | c :: rest =>
    if isAsciiDigit c then
      let e : Nat := valueInBase 10 (c :: rest.takeWhile isAsciiDigit)
      some (if negative then -(e : Int) else e, rest.dropWhile isAsciiDigit)
    else none
  | [] => none

/-- The exponent of a number; without digits its letter is no part of the number. -/
def exponentPart : List Char → Option (Int × List Char)
  | letter :: rest =>
    if letter == 'e' || letter == 'E' then
      match rest with
      | '-' :: rest => exponentDigits true rest
      | '+' :: rest => exponentDigits false rest
      | _ => exponentDigits false rest
    else none
  | [] => none

/-- The number at the head of the text. -/
def readNumber (cs : List Char) : Except Stop (Json × List Char) :=
  let (negative, body) :=
    match cs with
    | '-' :: rest => (true, rest)
    | _ => (false, cs)
  match wholeDigits body with
  | none => .error (.lacks .value cs)
  | some (whole, rest) =>
    let (fraction, rest) :=
      match fractionDigits rest with
      | some (ds, rest) => (ds, rest)
      | none => ([], rest)
    let (exponent, rest) :=
      match exponentPart rest with
      | some (e, rest) => (some e, rest)
      | none => (none, rest)
    if fraction.isEmpty && exponent.isNone then
      if Number.maxDigits < whole.length then .error (.longInteger whole.length)
      else
        let n : Nat := valueInBase 10 whole
        .ok (.int (if negative then -(n : Int) else n), rest)
    else
      let digits := valueInBase 10 (whole ++ fraction)
      .ok (.float (.ofDecimal negative digits (exponent.getD 0 - fraction.length)), rest)

/-- The text after a literal, when the text starts with it. -/
def afterLiteral? (literal cs : List Char) : Option (List Char) :=
  if literal.isPrefixOf cs then some (cs.drop literal.length) else none

/-- The values that are written as a word. -/
def words : List (List Char × Json) :=
  [("null".toList, .null), ("true".toList, .bool true), ("false".toList, .bool false),
    ("NaN".toList, .float .notANumber), ("Infinity".toList, .float (.infinite false)),
    ("-Infinity".toList, .float (.infinite true))]

/-- The word or number at the head of the text. -/
def readScalar (cs : List Char) : Except Stop (Json × List Char) :=
  match words.findSome? fun w => (afterLiteral? w.1 cs).map fun rest => (w.2, rest) with
  | some r => .ok r
  | none => readNumber cs

mutual

/-- The value at the head of the text. -/
def readValue : Nat → List Char → Except Stop (Json × List Char)
  | 0, cs => .error (.lacks .value cs)
  | fuel + 1, cs =>
    match cs with
    | '"' :: rest =>
      match readString cs rest with
      | .error e => .error e
      | .ok (s, rest) => .ok (.str (String.ofList s), rest)
    | '\x7b' :: rest =>
      match skipGap rest with
      | '\x7d' :: rest => .ok (.obj [], rest)
      | rest =>
        match readMembers fuel rest with
        | .error e => .error e
        | .ok (members, rest) => .ok (.obj (ofMembers members), rest)
    | '[' :: rest =>
      match skipGap rest with
      | ']' :: rest => .ok (.arr [], rest)
      | rest =>
        match readItems fuel rest with
        | .error e => .error e
        | .ok (items, rest) => .ok (.arr items, rest)
    | _ => readScalar cs

/-- The items of an array from one of them on, and the text after the closing bracket. -/
def readItems : Nat → List Char → Except Stop (List Json × List Char)
  | 0, cs => .error (.lacks .value cs)
  | fuel + 1, cs =>
    match readValue fuel cs with
    | .error e => .error e
    | .ok (item, rest) =>
      match skipGap rest with
      | ']' :: rest => .ok ([item], rest)
      | ',' :: rest =>
        match readItems fuel (skipGap rest) with
        | .error e => .error e
        | .ok (items, rest) => .ok (item :: items, rest)
      | rest => .error (.lacks .comma rest)

/-- The members of an object from one of them on, and the text after the closing brace. -/
def readMembers : Nat → List Char → Except Stop (List (String × Json) × List Char)
  | 0, cs => .error (.lacks .value cs)
  | fuel + 1, cs =>
    match cs with
    | '"' :: rest =>
      match readString cs rest with
      | .error e => .error e
      | .ok (name, rest) =>
        match skipGap rest with
        | ':' :: rest =>
          match readValue fuel (skipGap rest) with
          | .error e => .error e
          | .ok (value, rest) =>
            match skipGap rest with
            | '\x7d' :: rest => .ok ([(String.ofList name, value)], rest)
            | ',' :: rest =>
              match readMembers fuel (skipGap rest) with
              | .error e => .error e
              | .ok (members, rest) => .ok ((String.ofList name, value) :: members, rest)
            | rest => .error (.lacks .comma rest)
        | rest => .error (.lacks .colon rest)
    | _ => .error (.lacks .name cs)

end

/-- The document that the text is, blanks around it aside. From a value to the first of its items is
two steps that take one character, so twice the length of the text bounds the depth of the recursion. -/
def readDocument (cs : List Char) : Except Stop Json :=
  match cs with
  | '\uFEFF' :: _ => .error (.lacks .noByteOrderMark cs)
  | _ =>
    match readValue (2 * cs.length + 1) (skipGap cs) with
    | .error e => .error e
    | .ok (v, rest) =>
      match skipGap rest with
      | [] => .ok v
      | rest => .error (.lacks .endOfText rest)

/-- A defect and its place: characters before it, its line, and its column in the line. -/
structure Fault where
  defect : Defect
  position : Nat
  line : Nat
  column : Nat
  deriving DecidableEq, Repr

def Fault.message (f : Fault) : String :=
  s!"{f.defect.message}: line {f.line} column {f.column} (char {f.position})"

/-- The reasons why a text is not read as a document. A text may also be nested deeper than there is room
to read it (`exhausted`). -/
inductive ReadFailure
  | malformed (fault : Fault)
  | longInteger (digits : Nat)
  | exhausted
  deriving DecidableEq, Repr

/-- The place of a stop in the text that was being read. -/
def ReadFailure.ofStop (text : List Char) : Stop → ReadFailure
  | .longInteger digits => .longInteger digits
  | .lacks defect rest =>
    let before := text.take (text.length - rest.length)
    .malformed
      { defect := defect
        position := before.length
        line := before.count '\n' + 1
        column := (before.reverse.takeWhile (· ≠ '\n')).length + 1 }

/-- The JSON document that a text is. -/
def parse (text : List Char) : Except ReadFailure Json :=
  match readDocument text with
  | .ok v => .ok v
  | .error stop => .error (.ofStop text stop)

end ImportBoundary.Json
