import ImportBoundary.Display.Drawing
import ImportBoundary.Json.Reader
import ImportBoundary.Regex.Reader
import ImportBoundary.Source.Import

/-!
# Hosts

What the program leaves to others: reading JSON, patterns and sources, showing markup, and writing to the
output. A host may fail where another does not, because its stack is smaller, because it knows other
names of characters, or because its output cannot take all of them (the halves of pairs that a document
may hold stand for characters of this kind), so what is said of the program is said of any host.
`Host.standard` does as this library does, has room for whatever is nested, and an output that takes
every text.
-/

namespace ImportBoundary

open Text

/-- Who reads and shows for the program. -/
class Host where
  /-- The JSON document that a text is. -/
  document : List Char → Except Json.ReadFailure Json
  /-- A value can be written out in a message: there is room for what is nested in it. -/
  shows : Json → Bool
  /-- The pattern that a text is. -/
  pattern : String → Except Regex.Refusal Regex.Pattern
  /-- The import statements of a source, in order. -/
  imports : List Char → Except Source.ParseFailure (List Source.Import)
  /-- What markup shows. -/
  display : Display.Drawing → Except Display.Markup.Fault String
  /-- The output takes a text. -/
  takes : String → Bool

namespace Source

/-- A source whose lines end with newlines only. A newline after a carriage return is passed over
together with the end of the text, so there is one more when the text ends with both. -/
def unifyLines (text : List Char) : List Char :=
  unifyNewlines text ++ if ['\r', '\n'].isSuffixOf text then ['\n'] else []

/-- The import statements of a source as it is given. -/
def readImports (text : List Char) : Except ParseFailure (List Import) :=
  if text.contains '\x00' then .error .nul
  else (importsOf (unifyLines text)).mapError .faulty

end Source

/-- The host that reads and shows as this library does. -/
instance Host.standard : Host where
  document := Json.parse
  shows _ := true
  pattern := Regex.Pattern.ofText
  imports := Source.readImports
  display := Display.Drawing.shown
  takes _ := true

end ImportBoundary
