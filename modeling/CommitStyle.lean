import CommitStyle.Answer
import CommitStyle.Casing
import CommitStyle.CommandLine.Options
import CommitStyle.CommandLine.Run
import CommitStyle.Config.Basic
import CommitStyle.Config.Read
import CommitStyle.Config.Store
import CommitStyle.Config.Write
import CommitStyle.Entries
import CommitStyle.Failure
import CommitStyle.Files.Basic
import CommitStyle.Files.Path
import CommitStyle.Flow.Branch
import CommitStyle.Flow.Commit
import CommitStyle.Flow.Selection
import CommitStyle.Flow.Setup
import CommitStyle.Flow.Title
import CommitStyle.Format
import CommitStyle.Git
import CommitStyle.IgnoreFile
import CommitStyle.Json.Basic
import CommitStyle.Json.Display
import CommitStyle.Json.Reader
import CommitStyle.Json.Text
import CommitStyle.Json.Writer
import CommitStyle.KeyFile.Binding
import CommitStyle.KeyFile.Statements
import CommitStyle.KeyFile.Store
import CommitStyle.KeyFile.Variables
import CommitStyle.Main
import CommitStyle.Markup.Definition
import CommitStyle.Markup.Emoji
import CommitStyle.Markup.Palette
import CommitStyle.Markup.Plain
import CommitStyle.Npm
import CommitStyle.Number.Binary64
import CommitStyle.Number.Whole
import CommitStyle.Pattern.Basic
import CommitStyle.Pattern.Compile
import CommitStyle.Pattern.Expression
import CommitStyle.Pattern.Parse
import CommitStyle.Pattern.Render
import CommitStyle.Pattern.Validate
import CommitStyle.Proofs.Config.Failures
import CommitStyle.Proofs.Config.Loaded
import CommitStyle.Proofs.Config.RoundTrip
import CommitStyle.Proofs.Entries
import CommitStyle.Proofs.Files
import CommitStyle.Proofs.Files.Apart
import CommitStyle.Proofs.Files.Collapsing
import CommitStyle.Proofs.Flow.BranchNames
import CommitStyle.Proofs.Flow.Cancelling
import CommitStyle.Proofs.Flow.CommitOrder
import CommitStyle.Proofs.Flow.Courses
import CommitStyle.Proofs.Flow.Reconfiguring
import CommitStyle.Proofs.Flow.Sending
import CommitStyle.Proofs.Flow.SettingUp
import CommitStyle.Proofs.Flow.Testing
import CommitStyle.Proofs.Flow.Titles
import CommitStyle.Proofs.IgnoreFile.Adding
import CommitStyle.Proofs.Json.Ascii
import CommitStyle.Proofs.Json.Decimals
import CommitStyle.Proofs.Json.Numbers
import CommitStyle.Proofs.Json.Plainness
import CommitStyle.Proofs.Json.RoundTrip
import CommitStyle.Proofs.Json.Texts
import CommitStyle.Proofs.KeyFile.Lookup
import CommitStyle.Proofs.KeyFile.Reading
import CommitStyle.Proofs.KeyFile.References
import CommitStyle.Proofs.KeyFile.Rewriting
import CommitStyle.Proofs.KeyFile.Scanning
import CommitStyle.Proofs.KeyFile.StoredLine
import CommitStyle.Proofs.KeyFile.Storing
import CommitStyle.Proofs.Markup.Fitting
import CommitStyle.Proofs.Number.Rounding
import CommitStyle.Proofs.Number.Shortest
import CommitStyle.Proofs.Pattern.BranchText
import CommitStyle.Proofs.Pattern.Compiling
import CommitStyle.Proofs.Pattern.Matching
import CommitStyle.Proofs.Pattern.Parsing
import CommitStyle.Proofs.Pattern.Reading
import CommitStyle.Proofs.Pattern.RoundTrip
import CommitStyle.Proofs.Pattern.Tokens
import CommitStyle.Proofs.Pattern.Usability
import CommitStyle.Proofs.Pattern.Written
import CommitStyle.Proofs.Session.Accepting
import CommitStyle.Proofs.Session.Conversation
import CommitStyle.Proofs.Session.FirstAccepted
import CommitStyle.Proofs.Session.Running
import CommitStyle.Proofs.Session.Sparing
import CommitStyle.Proofs.Session.Talking
import CommitStyle.Proofs.Session.Telling
import CommitStyle.Proofs.Session.Twins
import CommitStyle.Proofs.Slug
import CommitStyle.Proofs.Slug.Shape
import CommitStyle.Proofs.Success
import CommitStyle.Proofs.Suggestion.Extraction
import CommitStyle.Proofs.Suggestion.Filtering
import CommitStyle.Proofs.Suggestion.Outcome
import CommitStyle.Proofs.Suggestion.Secrecy
import CommitStyle.Proofs.Text.AsciiCase
import CommitStyle.Proofs.Text.CaseImage
import CommitStyle.Proofs.Text.Lines
import CommitStyle.Proofs.Text.Pieces
import CommitStyle.Proofs.Text.Trimming
import CommitStyle.Proofs.Title.Acceptance
import CommitStyle.Proofs.Title.Builtin
import CommitStyle.Proofs.Title.Detection
import CommitStyle.Proofs.Title.Example
import CommitStyle.Proofs.Title.Exclusion
import CommitStyle.Proofs.Title.FinalForm
import CommitStyle.Proofs.Title.LetterCase
import CommitStyle.Proofs.Title.Recomposition
import CommitStyle.Proofs.Title.Renderable
import CommitStyle.Proofs.Title.Settling
import CommitStyle.Proofs.Title.Soundness
import CommitStyle.Proofs.Title.Verdict
import CommitStyle.Proofs.Version
import CommitStyle.Proofs.Version.Expression
import CommitStyle.Session.Basic
import CommitStyle.Session.Dialog
import CommitStyle.Session.Event
import CommitStyle.Session.Outcome
import CommitStyle.Session.Terminal
import CommitStyle.Slug
import CommitStyle.Suggestion.Instructions
import CommitStyle.Suggestion.Service
import CommitStyle.Suggestion.Suggest
import CommitStyle.Suggestion.Titles
import CommitStyle.Text.Blank
import CommitStyle.Text.Case
import CommitStyle.Text.CaseTable
import CommitStyle.Text.Control
import CommitStyle.Text.Digit
import CommitStyle.Text.Hex
import CommitStyle.Text.Lines
import CommitStyle.Text.Pieces
import CommitStyle.Text.Printable
import CommitStyle.Text.Quoted
import CommitStyle.Text.Ranges
import CommitStyle.Text.Similar
import CommitStyle.Text.Style
import CommitStyle.Text.Utf8
import CommitStyle.Text.Word
import CommitStyle.Title.Accept
import CommitStyle.Title.Compose
import CommitStyle.Title.Detect
import CommitStyle.Title.Examine
import CommitStyle.Version
