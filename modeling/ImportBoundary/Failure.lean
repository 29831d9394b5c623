import ImportBoundary.Edge.Listing
import ImportBoundary.Files.Basic
import ImportBoundary.Policy.Document

/-!
# Failures

What can go wrong between the documents of a project and its report. A `ConfigurationFault` is a
mistake in a policy or in a list of edges, told to its writer together with where in the document it
is; a source that cannot be read is told as well. The other failures are not expected, and end the
program.
-/

namespace ImportBoundary

open Text

/-- A mistake in a policy document or in a list of edges. -/
inductive ConfigurationFault
  | policyMissing (path : String)
  | policyUnreadable (path : String) (cause : Json.Fault)
  | policyNoObject (path : String) (value : Json)
  | relativeRoot (root : String)
  | misshapen (fault : Schema.Fault)
  | badPattern (list : Policy.PatternList) (index : Nat) (source : String) (cause : Regex.Fault)
  | edgesMissing (path : String)
  | edgesUnreadable (path : String) (part : Edge.Part) (cause : Json.Fault)
  | edgeNoObject (path : String) (index : Nat) (value : Json)
  | missingFields (names : List String)
  | badLocation (line column : Json)

namespace ConfigurationFault

/-- A path in a document: names after dots, positions in brackets. -/
def pathText (steps : List Schema.Step) : String :=
  steps.foldl (fun text step =>
    match step with
    | .index n => s!"{text}[{n}]"
    | .field name => if text.isEmpty then name else s!"{text}.{name}") ""

/-- Where in the document the mistake is, if that is known. -/
def place? : ConfigurationFault → Option String
  | .misshapen fault => if fault.path.isEmpty then none else some (pathText fault.path)
  | .badPattern list index _ _ => some s!"{list.label}[{index}]"
  | .edgeNoObject _ index _ => some s!"[{index}]"
  | .badLocation _ _ => some "line"
  | _ => none

/-- What the mistake is. -/
def reason : ConfigurationFault → String
  | .policyMissing path => s!"Policy file not found: {path}"
  | .policyUnreadable path cause => s!"Invalid JSON in {path}: {cause.message}"
  | .policyNoObject path value => s!"Expected object in {path}, got {value.kindWord}"
  | .relativeRoot root => s!"policy root must be absolute, got {quoted root}"
  | .misshapen fault => fault.complaint.message
  | .badPattern _ _ source cause =>
    s!"invalid regular expression {quoted source}: {cause.message source.toList}"
  | .edgesMissing path => s!"Edge file not found: {path}"
  | .edgesUnreadable path .whole cause => s!"Invalid JSON in {path}: {cause.message}"
  | .edgesUnreadable path (.line number) cause =>
    s!"Invalid JSON in {path}:{number}: {cause.message}"
  | .edgeNoObject path _ value => s!"Expected object in {path}, got {value.kindWord}"
  | .missingFields names => "edge record missing fields: " ++ ", ".intercalate names
  | .badLocation line column =>
    s!"line and column must be integers, got {line.display} and {column.display}"

/-- The mistake after its place. -/
def message (f : ConfigurationFault) : String :=
  match f.place? with
  | some place => s!"{place}: {f.reason}"
  | none => f.reason

end ConfigurationFault

/-- Why an operation has no result. -/
inductive Failure
  | configuration (fault : ConfigurationFault)
  | file (fault : FileFault)
  | bytes (fault : Utf8.Fault)
  | longInteger (digits : Nat)
  | hugeRepeat
  | bothAlphabets
  | infiniteLocation
  | relativeSource (cause : RelativeSource)
  | source (sourceFile : String) (fault : Source.Fault)
  | nulInSource
  | exhausted
  | markup (fault : Display.Markup.Fault)
  | untaken

namespace Failure

def message : Failure → String
  | .configuration fault => fault.message
  | .file fault => fault.message
  | .bytes fault => fault.message
  | .longInteger digits => Number.longMessage digits
  | .hugeRepeat => "the repetition number is too large"
  | .bothAlphabets => "ASCII and UNICODE flags are incompatible"
  | .infiniteLocation => "cannot convert float infinity to integer"
  | .relativeSource cause => cause.message
  | .source sourceFile fault => s!"Cannot parse {sourceFile}: {fault.message}"
  | .nulInSource => "source code string cannot contain null bytes"
  | .exhausted => "maximum recursion depth exceeded"
  | .markup fault => fault.message
  | .untaken => "'utf-8' codec can't encode characters: surrogates not allowed"

/-- A document that is refused. To tell what is wrong with its shape there has to be room to write out
the values in it. -/
def ofRefusal [Host] (document : Json) : Policy.Refusal → Failure
  | .relativeRoot root => .configuration (.relativeRoot root)
  | .misshapen fault => if Host.shows document then .configuration (.misshapen fault) else .exhausted
  | .badPattern list index text (.faulty cause) =>
    .configuration (.badPattern list index text cause)
  | .badPattern _ _ _ .hugeRepeat => .hugeRepeat
  | .badPattern _ _ _ (.longRepeat digits) => .longInteger digits
  | .badPattern _ _ _ .bothAlphabets => .bothAlphabets
  | .badPattern _ _ _ .exhausted => .exhausted

/-- A record that is no edge. -/
def ofRecordFault : Edge.RecordFault → Failure
  | .missingFields names => .configuration (.missingFields names)
  | .badLocation line column => .configuration (.badLocation line column)
  | .infiniteLocation => .infiniteLocation
  | .relativeSource cause => .relativeSource cause

/-- A text, read from `path`, that is no list of edges. -/
def ofListFault (path : String) : Edge.ListFault → Failure
  | .unreadable part (.malformed cause) => .configuration (.edgesUnreadable path part cause)
  | .unreadable _ (.longInteger digits) => .longInteger digits
  | .unreadable _ .exhausted => .exhausted
  | .notRecord index value => .configuration (.edgeNoObject path index value)
  | .badRecord cause => ofRecordFault cause
  | .untold => .exhausted

/-- A source that is not parsed. -/
def ofParseFailure (sourceFile : String) : Source.ParseFailure → Failure
  | .faulty fault => .source sourceFile fault
  | .nul => .nulInSource
  | .exhausted => .exhausted

/-- A file that is not read. -/
def ofReadFault : FileSystem.ReadFault → Failure
  | .file cause => .file cause
  | .bytes cause => .bytes cause

end Failure

end ImportBoundary
