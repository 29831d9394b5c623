import ImportBoundary.Json.Basic
import ImportBoundary.Number.Shortest
import ImportBoundary.Text.Quoted

/-!
# Writing JSON

One line per value: a blank after each comma and colon, names sorted by code point, and of the
characters only the quote, the backslash and the controls escaped. A writer that must keep to a
smaller alphabet says which characters it shows as they are (`Alphabet`).
-/

namespace ImportBoundary.Json

open Text

/-- The characters that are written as they are, the quote and the backslash aside. -/
abbrev Alphabet := Char → Bool

/-- Everything but the controls below the blank. -/
def allButControls : Alphabet :=
  fun c => 0x20 ≤ c.toNat

/-- The escape by code; a character beyond the basic plane is a pair of surrogates. -/
def unicodeEscape (c : Char) : List Char :=
  if c.toNat < 0x10000 then '\\' :: 'u' :: hexDigits 4 c.toNat
  else
    let code := c.toNat - 0x10000
    '\\' :: 'u' :: hexDigits 4 (0xD800 + code / 0x400) ++
      '\\' :: 'u' :: hexDigits 4 (0xDC00 + code % 0x400)

/-- One character of a string. -/
def writeChar (shows : Alphabet) (c : Char) : List Char :=
  if c = '"' then ['\\', '"']
  else if c = '\\' then ['\\', '\\']
  else if c = '\n' then ['\\', 'n']
  else if c = '\r' then ['\\', 'r']
  else if c = '\t' then ['\\', 't']
  else if c = '\x08' then ['\\', 'b']
  else if c = '\x0c' then ['\\', 'f']
  else if shows c then [c]
  else unicodeEscape c

/-- A string between its quotes. -/
def writeString (shows : Alphabet) (s : List Char) : List Char :=
  '"' :: s.flatMap (writeChar shows) ++ ['"']

/-- The decimal digits of an integer, after a sign if it is negative. -/
def writeInt (n : Int) : List Char :=
  (if n < 0 then ['-'] else []) ++ Nat.toDigits 10 n.natAbs

/-- Non-finite numbers are written as words. -/
def writeFloat : Binary64 → List Char
  | .notANumber => "NaN".toList
  | .infinite negative => (if negative then ['-'] else []) ++ "Infinity".toList
  | x => x.chars

/-- Field names in the order of their code points. -/
def sortFields {α : Type} (fields : List (String × α)) : List (String × α) :=
  fields.mergeSort fun a b => decide (a.1 ≤ b.1)

/-- Pieces with a comma and a blank between them. -/
def separated : List (List Char) → List Char
  | [] => []
  | [piece] => piece
  | piece :: pieces => piece ++ ',' :: ' ' :: separated pieces

mutual

/-- The text of a value. -/
def write (shows : Alphabet) : Json → List Char
  | .null => "null".toList
  | .bool b => if b then "true".toList else "false".toList
  | .int n => writeInt n
  | .float x => writeFloat x
  | .str s => writeString shows s.toList
  | .arr items => '[' :: separated (writeItems shows items) ++ [']']
  | .obj fields =>
    let members := (sortFields (writeFields shows fields)).map fun m =>
      writeString shows m.1.toList ++ ':' :: ' ' :: m.2
    '\x7b' :: separated members ++ ['\x7d']

def writeItems (shows : Alphabet) : List Json → List (List Char)
  | [] => []
  | v :: rest => write shows v :: writeItems shows rest

def writeFields (shows : Alphabet) : List (String × Json) → List (String × List Char)
  | [] => []
  | (name, v) :: rest => (name, write shows v) :: writeFields shows rest

end

/-- The line of a value. -/
def line (v : Json) : List Char :=
  write allButControls v

end ImportBoundary.Json
