import ImportBoundary.Text.Quoted

/-!
# What is wrong with a source

The reasons why a text is no Python source, each with its wording, and the line that is reported.
-/

namespace ImportBoundary.Source

open Text

/-- The ways to write a number. -/
inductive NumberKind
  | decimal
  | hexadecimal
  | octal
  | binary
  | imaginary
  deriving DecidableEq, Repr

def NumberKind.word : NumberKind → String
  | .decimal => "decimal"
  | .hexadecimal => "hexadecimal"
  | .octal => "octal"
  | .binary => "binary"
  | .imaginary => "imaginary"

/-- Why a text is no source. -/
inductive Complaint
  | invalidGrammar
  | unexpectedIndent
  | unexpectedDedent
  | expected (what : String)
  | emptyBlock (header : String) (line : Nat)
  | bareBlock
  | trailingComma
  | tryWithoutHandler
  | unterminatedText (line : Nat)
  | unterminatedLongText (line : Nat)
  | unmatched (closing : Char)
  | mismatched (closing opening : Char) (line : Option Nat)
  | neverClosed (opening : Char)
  | tooManyBrackets
  | badNumber (kind : NumberKind)
  | badDigit (digit : Char) (kind : NumberKind)
  | leadingZeros
  | unprintable (c : Char)
  | strangeCharacter (c : Char)
  | endOfText
  | badContinuation
  | mixedIndentation
  | badDedent
  | tooDeep
  deriving DecidableEq, Repr

/-- At least four upper-case hexadecimal digits. -/
def codeText (c : Char) : String :=
  (String.ofList (hexDigits 4 c.toNat)).toUpper

def Complaint.message : Complaint → String
  | .invalidGrammar => "invalid syntax"
  | .unexpectedIndent => "unexpected indent"
  | .unexpectedDedent => "unexpected unindent"
  | .expected what => s!"expected '{what}'"
  | .emptyBlock header line => s!"expected an indented block after {header} on line {line}"
  | .bareBlock => "expected an indented block"
  | .trailingComma => "trailing comma not allowed without surrounding parentheses"
  | .tryWithoutHandler => "expected 'except' or 'finally' block"
  | .unterminatedText line => s!"unterminated string literal (detected at line {line})"
  | .unterminatedLongText line =>
    s!"unterminated triple-quoted string literal (detected at line {line})"
  | .unmatched closing => s!"unmatched '{closing}'"
  | .mismatched closing opening none =>
    s!"closing parenthesis '{closing}' does not match opening parenthesis '{opening}'"
  | .mismatched closing opening (some line) =>
    s!"closing parenthesis '{closing}' does not match opening parenthesis '{opening}' " ++
      s!"on line {line}"
  | .neverClosed opening => s!"'{opening}' was never closed"
  | .tooManyBrackets => "too many nested parentheses"
  | .badNumber kind => s!"invalid {kind.word} literal"
  | .badDigit digit kind => s!"invalid digit '{digit}' in {kind.word} literal"
  | .leadingZeros =>
    "leading zeros in decimal integer literals are not permitted; " ++
      "use an 0o prefix for octal integers"
  | .unprintable c => s!"invalid non-printable character U+{codeText c}"
  | .strangeCharacter c => s!"invalid character '{c}' (U+{codeText c})"
  | .endOfText => "unexpected EOF while parsing"
  | .badContinuation => "unexpected character after line continuation character"
  | .mixedIndentation => "inconsistent use of tabs and spaces in indentation"
  | .badDedent => "unindent does not match any outer indentation level"
  | .tooDeep => "too many levels of indentation"

/-- A complaint and the line that it is about. -/
structure Fault where
  complaint : Complaint
  line : Nat
  deriving DecidableEq, Repr

def Fault.message (f : Fault) : String :=
  s!"line {f.line}: {f.complaint.message}"

/-- The reasons why a source is not parsed: a fault, a character that no source may hold, or too little
room for all that is nested in it. -/
inductive ParseFailure
  | faulty (fault : Fault)
  | nul
  | exhausted
  deriving DecidableEq, Repr

end ImportBoundary.Source
