import PlaybookAssist.Calendar
import PlaybookAssist.CommandLine.Arguments
import PlaybookAssist.CommandLine.Program
import PlaybookAssist.Context
import PlaybookAssist.Digest
import PlaybookAssist.Document
import PlaybookAssist.Engine
import PlaybookAssist.Failure
import PlaybookAssist.FileType
import PlaybookAssist.Files.Load
import PlaybookAssist.Files.Search
import PlaybookAssist.Files.Tree
import PlaybookAssist.Files.Wildcard
import PlaybookAssist.JsonText.Reader
import PlaybookAssist.JsonText.Writer
import PlaybookAssist.Main
import PlaybookAssist.Number.Integer
import PlaybookAssist.Number.Lenient
import PlaybookAssist.Number.Real
import PlaybookAssist.Path
import PlaybookAssist.Prompt
import PlaybookAssist.Proofs.CommandLine.Containment
import PlaybookAssist.Proofs.CommandLine.Preview
import PlaybookAssist.Proofs.CommandLine.Verdict
import PlaybookAssist.Proofs.Context.Assembly
import PlaybookAssist.Proofs.Context.Branches
import PlaybookAssist.Proofs.Context.Folder
import PlaybookAssist.Proofs.Context.Transparency
import PlaybookAssist.Proofs.Document.Above
import PlaybookAssist.Proofs.Document.Column
import PlaybookAssist.Proofs.Engine.Call
import PlaybookAssist.Proofs.Engine.Incidents
import PlaybookAssist.Proofs.Files.Depth
import PlaybookAssist.Proofs.Files.Layout
import PlaybookAssist.Proofs.Files.Load
import PlaybookAssist.Proofs.Files.Search
import PlaybookAssist.Proofs.Files.Tree
import PlaybookAssist.Proofs.Files.Wildcard
import PlaybookAssist.Proofs.Path.Relative
import PlaybookAssist.Proofs.Path.Rooted
import PlaybookAssist.Proofs.Path.Within
import PlaybookAssist.Proofs.Prompt.Chain
import PlaybookAssist.Proofs.Request.Entitlement
import PlaybookAssist.Proofs.Request.Payload
import PlaybookAssist.Proofs.Request.Plain
import PlaybookAssist.Proofs.Request.RoundTrip
import PlaybookAssist.Proofs.Role.Apart
import PlaybookAssist.Proofs.Role.Cache
import PlaybookAssist.Proofs.Role.Child
import PlaybookAssist.Proofs.Role.Coherence
import PlaybookAssist.Proofs.Role.Directory
import PlaybookAssist.Proofs.Role.Discovery
import PlaybookAssist.Proofs.Role.Enclosing
import PlaybookAssist.Proofs.Role.History
import PlaybookAssist.Proofs.Role.Origin
import PlaybookAssist.Proofs.Role.Owner
import PlaybookAssist.Proofs.Role.Reach
import PlaybookAssist.Proofs.Role.Reader
import PlaybookAssist.Proofs.Role.Visible
import PlaybookAssist.Proofs.Role.WorkOff
import PlaybookAssist.Proofs.Service.Outcome
import PlaybookAssist.Proofs.Settings.Normal
import PlaybookAssist.Proofs.Suggestion.Activity
import PlaybookAssist.Proofs.Suggestion.Cancellation
import PlaybookAssist.Proofs.Suggestion.Change
import PlaybookAssist.Proofs.Suggestion.Consistency
import PlaybookAssist.Proofs.Suggestion.Custody
import PlaybookAssist.Proofs.Suggestion.Discard
import PlaybookAssist.Proofs.Suggestion.Display
import PlaybookAssist.Proofs.Suggestion.Effects
import PlaybookAssist.Proofs.Suggestion.History
import PlaybookAssist.Proofs.Suggestion.Isolation
import PlaybookAssist.Proofs.Suggestion.Offer
import PlaybookAssist.Proofs.Suggestion.Ready
import PlaybookAssist.Proofs.Suggestion.Replay
import PlaybookAssist.Proofs.Suggestion.Report
import PlaybookAssist.Proofs.Suggestion.RequestId
import PlaybookAssist.Proofs.Suggestion.Stranded
import PlaybookAssist.Proofs.Suggestion.Stretch
import PlaybookAssist.Proofs.Text.Ends
import PlaybookAssist.Proofs.Text.Laws
import PlaybookAssist.Proofs.Text.Margin
import PlaybookAssist.Proofs.Text.Utf8
import PlaybookAssist.Proofs.Text.Words
import PlaybookAssist.Proofs.Uri.Plain
import PlaybookAssist.Proofs.Uri.Quoted
import PlaybookAssist.Proofs.Value.Endless
import PlaybookAssist.Proofs.Value.Mapping
import PlaybookAssist.Proofs.Value.Rearranged
import PlaybookAssist.Proofs.Variables.Exchange
import PlaybookAssist.Proofs.Variables.Included
import PlaybookAssist.Proofs.Variables.Present
import PlaybookAssist.Proofs.Variables.Selected
import PlaybookAssist.Proofs.Variables.Spelling
import PlaybookAssist.Proofs.Variables.Walk
import PlaybookAssist.Proofs.Watch.Epochs
import PlaybookAssist.Request.Completion
import PlaybookAssist.Request.Feedback
import PlaybookAssist.Request.Inquiry
import PlaybookAssist.Request.Plain
import PlaybookAssist.Role.Cache
import PlaybookAssist.Role.Context
import PlaybookAssist.Role.Directory
import PlaybookAssist.Role.Reader
import PlaybookAssist.Schema.Check
import PlaybookAssist.Schema.Issue
import PlaybookAssist.Service
import PlaybookAssist.Settings
import PlaybookAssist.Suggestion.Activity
import PlaybookAssist.Suggestion.Lifecycle
import PlaybookAssist.Suggestion.Session
import PlaybookAssist.Suggestion.Suggester
import PlaybookAssist.Table
import PlaybookAssist.Text
import PlaybookAssist.Text.Blank
import PlaybookAssist.Text.Case
import PlaybookAssist.Text.Digit
import PlaybookAssist.Text.Margin
import PlaybookAssist.Text.Printable
import PlaybookAssist.Text.Quoted
import PlaybookAssist.Text.Stream
import PlaybookAssist.Text.Surrogate
import PlaybookAssist.Text.Utf8
import PlaybookAssist.Text.Words
import PlaybookAssist.Uri
import PlaybookAssist.Value
import PlaybookAssist.Value.Equality
import PlaybookAssist.Variables
import PlaybookAssist.Watch.Notice
import PlaybookAssist.Watch.Watcher
import PlaybookAssist.Yaml.Document
import PlaybookAssist.Yaml.Graph
import PlaybookAssist.Yaml.Graph.Merge
import PlaybookAssist.Yaml.Graph.Reader
import PlaybookAssist.Yaml.Layer
import PlaybookAssist.Yaml.Source
import PlaybookAssist.Yaml.Tag
import PlaybookAssist.Yaml.Token
import PlaybookAssist.Yaml.Token.Lexer
import PlaybookAssist.Yaml.Token.Scalar
import PlaybookAssist.Yaml.Writer
