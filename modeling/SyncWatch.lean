import SyncWatch.Address.Basic
import SyncWatch.Address.Escape
import SyncWatch.Address.Host
import SyncWatch.Address.Name
import SyncWatch.Address.NameTable
import SyncWatch.Address.Punycode
import SyncWatch.Backoff
import SyncWatch.CommandLine.Help
import SyncWatch.CommandLine.Options
import SyncWatch.CommandLine.Program
import SyncWatch.CommandLine.Tree
import SyncWatch.Dashboard.Basic
import SyncWatch.Dashboard.View
import SyncWatch.Decimal.Dyadic
import SyncWatch.Decimal.Nearest
import SyncWatch.Decimal.Rounding
import SyncWatch.Decimal.Scaled
import SyncWatch.Decimal.Shortest
import SyncWatch.Decimal.Text
import SyncWatch.Duration
import SyncWatch.Failure
import SyncWatch.Feed.Coordinator
import SyncWatch.Feed.Error
import SyncWatch.Feed.Event
import SyncWatch.Feed.Framing
import SyncWatch.Feed.Reception
import SyncWatch.Feed.Reply
import SyncWatch.Feed.Session
import SyncWatch.Feed.Stream
import SyncWatch.Feed.Watchdog
import SyncWatch.Feed.Worker
import SyncWatch.Home
import SyncWatch.Json.Basic
import SyncWatch.Json.Decode
import SyncWatch.Json.Printer
import SyncWatch.Json.Reader
import SyncWatch.Json.Token
import SyncWatch.Log.Line
import SyncWatch.Log.Markup
import SyncWatch.Log.Render
import SyncWatch.Log.Scroll
import SyncWatch.Log.Style
import SyncWatch.Log.Surface
import SyncWatch.Main
import SyncWatch.Mismatch
import SyncWatch.Progress.Event
import SyncWatch.Progress.EventName
import SyncWatch.Progress.EventText
import SyncWatch.Progress.Machine
import SyncWatch.Progress.Payload
import SyncWatch.Progress.Summary
import SyncWatch.Progress.Timeline
import SyncWatch.Proofs.Backoff
import SyncWatch.Proofs.CommandLine.Overrides
import SyncWatch.Proofs.Dashboard.Redraw
import SyncWatch.Proofs.Dashboard.Replay
import SyncWatch.Proofs.Dashboard.Run
import SyncWatch.Proofs.Dashboard.StaleEvents
import SyncWatch.Proofs.Dashboard.Updates
import SyncWatch.Proofs.Feed.Attempts
import SyncWatch.Proofs.Feed.Connections
import SyncWatch.Proofs.Feed.Consistency
import SyncWatch.Proofs.Feed.DebugMode
import SyncWatch.Proofs.Feed.EventLines
import SyncWatch.Proofs.Feed.EventNames
import SyncWatch.Proofs.Feed.FinishedLines
import SyncWatch.Proofs.Feed.FinishedRuns
import SyncWatch.Proofs.Feed.Firings
import SyncWatch.Proofs.Feed.Messages
import SyncWatch.Proofs.Feed.Pieces
import SyncWatch.Proofs.Feed.Run
import SyncWatch.Proofs.Feed.SessionHistory
import SyncWatch.Proofs.Feed.Silence
import SyncWatch.Proofs.Feed.SummaryLines
import SyncWatch.Proofs.Feed.SummaryMessages
import SyncWatch.Proofs.Feed.Transcript
import SyncWatch.Proofs.Json.Delimiters
import SyncWatch.Proofs.Json.Keys
import SyncWatch.Proofs.Json.Members
import SyncWatch.Proofs.Json.RoundTrip
import SyncWatch.Proofs.Json.Spelling
import SyncWatch.Proofs.Json.Written
import SyncWatch.Proofs.Log.Contents
import SyncWatch.Proofs.Log.Escaping
import SyncWatch.Proofs.Log.Following
import SyncWatch.Proofs.Log.Hold
import SyncWatch.Proofs.Log.LineEnds
import SyncWatch.Proofs.Log.Readable
import SyncWatch.Proofs.Log.Reassembly
import SyncWatch.Proofs.Log.Refill
import SyncWatch.Proofs.Log.Retention
import SyncWatch.Proofs.Log.Run
import SyncWatch.Proofs.Progress.Band
import SyncWatch.Proofs.Progress.Convergence
import SyncWatch.Proofs.Progress.EventMembers
import SyncWatch.Proofs.Progress.EventNames
import SyncWatch.Proofs.Progress.Order
import SyncWatch.Proofs.Progress.PayloadText
import SyncWatch.Proofs.Progress.Replay
import SyncWatch.Proofs.Progress.RoundTrip
import SyncWatch.Proofs.Screen.Picture
import SyncWatch.Proofs.Screen.ProgressBar
import SyncWatch.Proofs.Settings.Delays
import SyncWatch.Proofs.Settings.ServerAddress
import SyncWatch.Proofs.Settings.Tags
import SyncWatch.Proofs.Settings.Usable
import SyncWatch.Proofs.Text.LetterCase
import SyncWatch.Proofs.Text.Replacement
import SyncWatch.Proofs.Text.Trim
import SyncWatch.Screen.Input
import SyncWatch.Screen.Palette
import SyncWatch.Screen.Picture
import SyncWatch.Screen.Progress
import SyncWatch.Settings.Basic
import SyncWatch.Settings.Feeds
import SyncWatch.Settings.File
import SyncWatch.Settings.Load
import SyncWatch.Settings.Validity
import SyncWatch.Text.Blank
import SyncWatch.Text.Cluster
import SyncWatch.Text.ClusterTable
import SyncWatch.Text.Digit
import SyncWatch.Text.EscapedTable
import SyncWatch.Text.LetterCase
import SyncWatch.Text.Ligature
import SyncWatch.Text.Pictograph
import SyncWatch.Text.PictographTable
import SyncWatch.Text.Quoted
import SyncWatch.Text.Runs
import SyncWatch.Text.Search
import SyncWatch.Text.UpperTable
import SyncWatch.Text.Utf8
import SyncWatch.Text.Width
import SyncWatch.Text.WidthTable
import SyncWatch.Word
import SyncWatch.Yaml.Document
import SyncWatch.Yaml.Event
import SyncWatch.Yaml.Label
import SyncWatch.Yaml.Meaning
import SyncWatch.Yaml.Scalar
import SyncWatch.Yaml.Source
import SyncWatch.Yaml.Token
import SyncWatch.Yaml.Tokens
