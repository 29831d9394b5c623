import ImportBoundary.Text.Word
import ImportBoundary.Text.Identifier
import ImportBoundary.Text.LetterCase
import ImportBoundary.Text.Utf8
import ImportBoundary.Path.Basic
import ImportBoundary.Json.Reader
import ImportBoundary.Json.Writer
import ImportBoundary.Json.Display
import ImportBoundary.Regex.Reader
import ImportBoundary.Regex.Matching
import ImportBoundary.Policy.Document
import ImportBoundary.Edge.Listing
import ImportBoundary.Check.Report
import ImportBoundary.Check.Session
import ImportBoundary.Files.Creation
import ImportBoundary.Files.Walk
import ImportBoundary.Loading
import ImportBoundary.Source.Token
import ImportBoundary.Source.Extraction
import ImportBoundary.Display.Message
import ImportBoundary.Log.Terminal
import ImportBoundary.CommandLine.Similarity
import ImportBoundary.CommandLine.Reading
import ImportBoundary.CommandLine.Run
import ImportBoundary.Main
import ImportBoundary.Proofs.Json.Depth
import ImportBoundary.Proofs.Policy.Grammar
import ImportBoundary.Proofs.Check.Segments
import ImportBoundary.Proofs.Check.Relocation
import ImportBoundary.Proofs.Check.Spelling
import ImportBoundary.Proofs.Check.Session
import ImportBoundary.Proofs.Loading.Outcome
import ImportBoundary.Proofs.Loading.Formats
import ImportBoundary.Proofs.CommandLine.ExitCode
import ImportBoundary.Proofs.Json.Lines
import ImportBoundary.Proofs.Check.Report
import ImportBoundary.Proofs.Check.Entries
import ImportBoundary.Proofs.Check.Monotone
import ImportBoundary.Proofs.Check.Arrangement
import ImportBoundary.Proofs.Files.Contents
import ImportBoundary.Proofs.Source.Contents
import ImportBoundary.Proofs.CommandLine.Output
import ImportBoundary.Proofs.CommandLine.Visits
import ImportBoundary.Proofs.CommandLine.Shape
import ImportBoundary.Proofs.CommandLine.Unparsed
import ImportBoundary.Proofs.Display.Markup
import ImportBoundary.Proofs.CommandLine.Validation
import ImportBoundary.Proofs.CommandLine.Presentation
import ImportBoundary.Proofs.Path.Cut
import ImportBoundary.Proofs.Policy.Canonical
import ImportBoundary.Proofs.Source.Spelling
import ImportBoundary.Proofs.Policy.Place
import ImportBoundary.Proofs.Path.Ancestry
import ImportBoundary.Proofs.Edge.Location
import ImportBoundary.Proofs.Edge.Rebuilding
import ImportBoundary.Proofs.Source.Relative
import ImportBoundary.Proofs.Display.Listing
import ImportBoundary.Proofs.Edge.Staging
import ImportBoundary.Proofs.Files.Sources
import ImportBoundary.Proofs.Path.Shown
import ImportBoundary.Proofs.Source.Complete
import ImportBoundary.Proofs.Path.Parent
import ImportBoundary.Proofs.Path.LastSegment
import ImportBoundary.Proofs.Check.Root
import ImportBoundary.Proofs.Log.LastCalls
import ImportBoundary.Proofs.Files.Agreement
