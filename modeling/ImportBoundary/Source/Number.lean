import ImportBoundary.Source.Fault
import ImportBoundary.Text.Digit

/-!
# Numbers in a source

How far a number reaches. Each function takes the text from some point of the number on and gives
the text after it. The text after a number must not go on like a name, but for the operators that
may follow a number without a blank (`isJoinedOperator`).
-/

namespace ImportBoundary.Source

open Text

/-- A character that can be part of a name, as far as that is known without its Unicode class. -/
def isNameChar (c : Char) : Bool :=
  c.isAlphanum || c == '_' || 128 ≤ c.toNat

/-- The text starts with a word that does not go on. -/
def startsWithWord (word cs : List Char) : Bool :=
  word.isPrefixOf cs && !((cs.drop word.length).head?.map isNameChar).getD false

/-- The text starts with an operator in letters. -/
def isJoinedOperator (cs : List Char) : Bool :=
  (["and", "else", "for", "or"].any fun word => startsWithWord word.toList cs) ||
    ["if", "in", "is"].any fun word => word.toList.isPrefixOf cs

/-- What comes after a number is not part of a name. -/
def checkEnd (kind : NumberKind) (cs : List Char) : Except Complaint (List Char) :=
  if isJoinedOperator cs || !(cs.head?.map isNameChar).getD false then .ok cs
  else .error (.badNumber kind)

/-- Decimal digits, single underscores between them. -/
def decimalTail : List Char → Except Complaint (List Char)
  | '_' :: c :: cs =>
    if isAsciiDigit c then decimalTail (c :: cs) else .error (.badNumber .decimal)
  | ['_'] => .error (.badNumber .decimal)
  | c :: cs => if isAsciiDigit c then decimalTail cs else .ok (c :: cs)
  | [] => .ok []

/-- The base of a kind of number that a letter introduces. -/
def NumberKind.base : NumberKind → Nat
  | .hexadecimal => 16
  | .octal => 8
  | .binary => 2
  | _ => 10

/-- A character that should be a digit of the kind but is none. -/
def digitComplaint (kind : NumberKind) (c : Char) : Complaint :=
  if isAsciiDigit c then .badDigit c kind else .badNumber kind

/-- Digits of a base, single underscores between them; `due` when a digit has to come. -/
def radixTail (kind : NumberKind) (due : Bool) : List Char → Except Complaint (List Char)
  | [] => if due then .error (.badNumber kind) else .ok []
  | c :: cs =>
    if (radixDigit? kind.base c).isSome then radixTail kind false cs
    else if due then .error (digitComplaint kind c)
    else if c = '_' then radixTail kind true cs
    else if isAsciiDigit c then .error (.badDigit c kind)
    else .ok (c :: cs)

/-- Digits of a base after the letter that introduces them. -/
def radixNumber (kind : NumberKind) (cs : List Char) : Except Complaint (List Char) := do
  let digits :=
    match cs with
    | '_' :: rest => rest
    | _ => cs
  checkEnd kind (← radixTail kind true digits)

/-- The mark of an imaginary number, or none, and the end. -/
def imaginaryEnd (cs : List Char) : Except Complaint (List Char) :=
  match cs with
  | c :: rest => if c = 'j' || c = 'J' then checkEnd .imaginary rest else checkEnd .decimal cs
  | [] => .ok []

def startsWithDigit (cs : List Char) : Bool :=
  (cs.head?.map isAsciiDigit).getD false

/-- An exponent, or none, and the end. A letter without digits is no exponent. -/
def exponentEnd (cs : List Char) : Except Complaint (List Char) := do
  match cs with
  | [] => return []
  | letter :: rest =>
    if letter = 'e' || letter = 'E' then
      match rest with
      | '+' :: digits | '-' :: digits =>
        if startsWithDigit digits then imaginaryEnd (← decimalTail digits)
        else throw (.badNumber .decimal)
      | digits =>
        if startsWithDigit digits then imaginaryEnd (← decimalTail digits)
        else checkEnd .decimal cs
    else imaginaryEnd cs

/-- The digits after a point, or none, and the rest of the number. -/
def fractionEnd (cs : List Char) : Except Complaint (List Char) := do
  if startsWithDigit cs then exponentEnd (← decimalTail cs) else exponentEnd cs

/-- A point, or none, and the rest of the number. -/
def pointEnd (cs : List Char) : Except Complaint (List Char) :=
  match cs with
  | '.' :: rest => fractionEnd rest
  | _ => exponentEnd cs

/-- Zeros, single underscores between them. -/
def skipZeros : List Char → Except Complaint (List Char)
  | '_' :: c :: cs =>
    if isAsciiDigit c then skipZeros (c :: cs) else .error (.badNumber .decimal)
  | ['_'] => .error (.badNumber .decimal)
  | '0' :: cs => skipZeros cs
  | cs => .ok cs

/-- A number that starts with zero and is given in tens: other digits may follow only when it is no
integer. -/
def zeroNumber (cs : List Char) : Except Complaint (List Char) := do
  let cs ← skipZeros cs
  if startsWithDigit cs then
    let cs ← decimalTail cs
    match cs with
    | c :: _ =>
      if c = '.' || c = 'e' || c = 'E' || c = 'j' || c = 'J' then pointEnd cs
      else throw .leadingZeros
    | [] => throw .leadingZeros
  else pointEnd cs

/-- The text after the number at the head of a text, whose first character is given apart. -/
def numberEnd (first : Char) (cs : List Char) : Except Complaint (List Char) :=
  if first = '.' then fractionEnd cs
  else if first = '0' then
    match cs with
    | c :: rest =>
      if c = 'x' || c = 'X' then radixNumber .hexadecimal rest
      else if c = 'o' || c = 'O' then radixNumber .octal rest
      else if c = 'b' || c = 'B' then radixNumber .binary rest
      else zeroNumber cs
    | [] => .ok []
  else do pointEnd (← decimalTail cs)

end ImportBoundary.Source
