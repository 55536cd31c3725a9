import CommentDigest.Assoc
import CommentDigest.Batch
import CommentDigest.Binary64.Basic
import CommentDigest.Binary64.Shortest
import CommentDigest.Binary64.Text
import CommentDigest.Cli.Invocation
import CommentDigest.Cli.Options
import CommentDigest.Cli.Run
import CommentDigest.Cli.Words
import CommentDigest.Clock
import CommentDigest.Environment.Basic
import CommentDigest.Environment.Lines
import CommentDigest.Environment.Search
import CommentDigest.Error
import CommentDigest.FieldMapping
import CommentDigest.Files.Name
import CommentDigest.Files.System
import CommentDigest.Files.Tree
import CommentDigest.Http.Charset
import CommentDigest.Http.Client
import CommentDigest.Http.Exchange
import CommentDigest.Http.Header
import CommentDigest.Http.Host
import CommentDigest.Http.Percent
import CommentDigest.Http.Script
import CommentDigest.Http.Status
import CommentDigest.Http.Url
import CommentDigest.Json.Fault
import CommentDigest.Json.Printer
import CommentDigest.Json.Reader
import CommentDigest.Json.Scan
import CommentDigest.Json.Skip
import CommentDigest.Json.Typed
import CommentDigest.Json.Value
import CommentDigest.Logging.Filter
import CommentDigest.Logging.Level
import CommentDigest.Logging.Setup
import CommentDigest.Main
import CommentDigest.Path
import CommentDigest.Power
import CommentDigest.Preset
import CommentDigest.Request
import CommentDigest.Session
import CommentDigest.Settings.Basic
import CommentDigest.Settings.Check
import CommentDigest.Settings.Convert
import CommentDigest.Settings.Field
import CommentDigest.Settings.Json
import CommentDigest.Settings.Load
import CommentDigest.Settings.Reader
import CommentDigest.Settings.Tree
import CommentDigest.Settings.Variables
import CommentDigest.Template
import CommentDigest.Text.Blank
import CommentDigest.Text.Case
import CommentDigest.Text.CaseTable
import CommentDigest.Text.Digits
import CommentDigest.Text.Letter
import CommentDigest.Text.LetterTable
import CommentDigest.Text.Quoted
import CommentDigest.Text.QuotedTable
import CommentDigest.Text.Replace
import CommentDigest.Text.Utf8
import CommentDigest.Toml.Reader
import CommentDigest.Toml.Scan
import CommentDigest.Transport
import CommentDigest.Proofs.Template.Occurrences
import CommentDigest.Proofs.Json.Literal
import CommentDigest.Proofs.Json.Numeral
import CommentDigest.Proofs.Json.Grammar
import CommentDigest.Proofs.Json.Reading
import CommentDigest.Proofs.Assoc
import CommentDigest.Proofs.Json.Layout
import CommentDigest.Proofs.Json.Tree
import CommentDigest.Proofs.Json.Printed
import CommentDigest.Proofs.Json.Skipping
import CommentDigest.Proofs.Json.Typed
import CommentDigest.Proofs.Path
import CommentDigest.Proofs.Addressing
import CommentDigest.Proofs.Resolution
import CommentDigest.Proofs.Files
import CommentDigest.Proofs.Environment.Variables
import CommentDigest.Proofs.RecordImage
import CommentDigest.Proofs.Template.Named
import CommentDigest.Proofs.Payload
import CommentDigest.Proofs.Escaping
import CommentDigest.Proofs.RequestBody
import CommentDigest.Proofs.Session.Calls
import CommentDigest.Proofs.Session.Secrets
import CommentDigest.Proofs.Http.Retry
import CommentDigest.Proofs.Settings.Fields
import CommentDigest.Proofs.Settings.Json
import CommentDigest.Proofs.Settings.Reading
import CommentDigest.Proofs.Settings.RoundTrip
import CommentDigest.Proofs.Settings.Tree
import CommentDigest.Proofs.Settings.Layers
import CommentDigest.Proofs.Settings.Loading
import CommentDigest.Proofs.Settings.Variables
import CommentDigest.Proofs.Settings.Names
import CommentDigest.Proofs.Settings.Convert
import CommentDigest.Proofs.Settings.File
import CommentDigest.Proofs.Settings.Precedence
import CommentDigest.Proofs.Settings.Retries
import CommentDigest.Proofs.Settings.Saved
import CommentDigest.Proofs.Settings.Check
import CommentDigest.Proofs.Text.Digits
import CommentDigest.Proofs.Headers
import CommentDigest.Proofs.Records
import CommentDigest.Proofs.FieldMapping
import CommentDigest.Proofs.Template.Positional
import CommentDigest.Proofs.Template.Filling
import CommentDigest.Proofs.Masking
import CommentDigest.Proofs.ListingUrl
import CommentDigest.Proofs.Session.Answers
import CommentDigest.Proofs.LogFile
