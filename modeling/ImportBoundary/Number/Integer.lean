import ImportBoundary.Text.Blank
import ImportBoundary.Text.Digit

/-!
# Integers in text

A text denotes an integer when, blanks at its ends aside, it is an optional sign and decimal digits
of any script, single underscores between digits allowed. More digits than `maxDigits` are refused.
-/

namespace ImportBoundary.Number

open Text

/-- Longer integers are not read from text. -/
def maxDigits : Nat := 4300

/-- What is said of an integer with more digits. -/
def longMessage (digits : Nat) : String :=
  s!"Exceeds the limit ({maxDigits} digits) for integer string conversion: " ++
    s!"value has {digits} digits; use sys.set_int_max_str_digits() to increase the limit"

/-- Blanks that may surround an integer: the information separators do not count here. -/
def isPadding (c : Char) : Bool :=
  if c.toNat < 128 then c == ' ' || (0x09 ≤ c.toNat && c.toNat ≤ 0x0D) else isBlank c

/-- The digits of an integer, each with its value. An underscore must stand between two digits. -/
def digitsOf : List Char → Option (List Nat)
  | [] => none
  | [c] => (digitValue? c).map ([·])
  | c :: '_' :: cs => do
    let d ← digitValue? c
    let ds ← digitsOf cs
    return d :: ds
  | c :: cs => do
    let d ← digitValue? c
    let ds ← digitsOf cs
    return d :: ds

/-- The number that decimal digits stand for. -/
def ofDigits (ds : List Nat) : Nat :=
  ds.foldl (fun acc d => acc * 10 + d) 0

/-- The integer that a text denotes. -/
def integer? (cs : List Char) : Option Int :=
  let body := ((cs.dropWhile isPadding).reverse.dropWhile isPadding).reverse
  let (negative, body) :=
    match body with
    | '-' :: rest => (true, rest)
    | '+' :: rest => (false, rest)
    | _ => (false, body)
  match digitsOf body with
  | none => none
  | some ds =>
    if maxDigits < ds.length then none
    else some (if negative then -(ofDigits ds : Int) else ofDigits ds)

end ImportBoundary.Number
