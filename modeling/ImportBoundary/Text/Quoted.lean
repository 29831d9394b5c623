import ImportBoundary.Text.Printable

/-!
# Quoted text

How messages show a text: between quotes, on one line, with nothing invisible. The quote is the
apostrophe unless the text holds one and no double quote. `quotedChars_eq` splits the shown form into
its quotes and its escaped characters.
-/

namespace ImportBoundary.Text

/-- Lower-case hexadecimal digits, filled up with zeros to a width. -/
def hexDigits (width n : Nat) : List Char :=
  let digits := Nat.toDigits 16 n
  List.replicate (width - digits.length) '0' ++ digits

/-- The escape of a character by its code point, as short as the code point allows. -/
def codeEscape (c : Char) : List Char :=
  if c.toNat < 0x100 then '\\' :: 'x' :: hexDigits 2 c.toNat
  else if c.toNat < 0x10000 then '\\' :: 'u' :: hexDigits 4 c.toNat
  else '\\' :: 'U' :: hexDigits 8 c.toNat

/-- One character of a quoted text. -/
def escapeChar (quote c : Char) : List Char :=
  if c = quote || c = '\\' then ['\\', c]
  else if c = '\n' then ['\\', 'n']
  else if c = '\r' then ['\\', 'r']
  else if c = '\t' then ['\\', 't']
  else if isPrintable c then [c]
  else codeEscape c

/-- The quote that needs the fewest escapes, the apostrophe first. -/
def quoteFor (cs : List Char) : Char :=
  if cs.contains '\x27' && !cs.contains '"' then '"' else '\x27'

/-- The text between quotes, with every character visible. -/
def quotedChars (cs : List Char) : List Char :=
  let quote := quoteFor cs
  quote :: cs.flatMap (escapeChar quote) ++ [quote]

/-- The text between quotes, with every character visible. -/
def quoted (s : String) : String :=
  String.ofList (quotedChars s.toList)

theorem quotedChars_eq (cs : List Char) :
    quotedChars cs = quoteFor cs :: (cs.flatMap (escapeChar (quoteFor cs)) ++ [quoteFor cs]) :=
  rfl

end ImportBoundary.Text
