import TypedImport.Cache.Basic
import TypedImport.Cache.Flights
import TypedImport.Cache.Rehearsal
import TypedImport.CommandLine.Arguments
import TypedImport.CommandLine.Program
import TypedImport.CommandLine.Styled
import TypedImport.Config.Basic
import TypedImport.Config.Document
import TypedImport.Config.File
import TypedImport.Config.Load
import TypedImport.Config.Policy
import TypedImport.Csv
import TypedImport.Digest.Sha256
import TypedImport.Handler.Basic
import TypedImport.Handler.Builtin
import TypedImport.Handler.Descriptor
import TypedImport.Handler.Encoding
import TypedImport.Handler.Failure
import TypedImport.Handler.Identity
import TypedImport.Handler.Invocation
import TypedImport.Handler.Module
import TypedImport.Handler.Native
import TypedImport.Handler.Registry
import TypedImport.Handler.Resolver
import TypedImport.Handler.Resolving
import TypedImport.Handler.Script
import TypedImport.Handler.TypeSet
import TypedImport.Import.Error
import TypedImport.Import.Fault
import TypedImport.Import.Record
import TypedImport.Import.Request
import TypedImport.Import.Specifier
import TypedImport.Import.State
import TypedImport.Json.Number
import TypedImport.Json.Printer
import TypedImport.Json.Reader
import TypedImport.Json.Value
import TypedImport.Loader.Basic
import TypedImport.Loader.Rehearsal
import TypedImport.Loader.Stats
import TypedImport.Main
import TypedImport.Number.Binary64
import TypedImport.Number.Numeral
import TypedImport.Number.Shortest
import TypedImport.Source.Asset
import TypedImport.Source.Feed
import TypedImport.Source.Fetch
import TypedImport.Source.Media
import TypedImport.Source.Retry
import TypedImport.Table
import TypedImport.Text.Blank
import TypedImport.Text.Hex
import TypedImport.Text.Invisible
import TypedImport.Text.Quoted
import TypedImport.Text.Split
import TypedImport.Text.Utf8
import TypedImport.Url.Basic
import TypedImport.Url.FilePath
import TypedImport.Url.Host
import TypedImport.Url.Percent
import TypedImport.Url.Punycode
import TypedImport.Url.Reader
import TypedImport.Url.Segments
import TypedImport.Proofs.Cache.Changes
import TypedImport.Proofs.Cache.Conflicts
import TypedImport.Proofs.Cache.Entries
import TypedImport.Proofs.Cache.Fences
import TypedImport.Proofs.Cache.History
import TypedImport.Proofs.Cache.Replacement
import TypedImport.Proofs.Cache.Retention
import TypedImport.Proofs.Cache.SingleFlight
import TypedImport.Proofs.Cache.Soundness
import TypedImport.Proofs.Cache.Steps
import TypedImport.Proofs.Cache.Stranded
import TypedImport.Proofs.Config.Backoff
import TypedImport.Proofs.Config.Changes
import TypedImport.Proofs.Config.Layers
import TypedImport.Proofs.Config.Settings
import TypedImport.Proofs.Csv.Lines
import TypedImport.Proofs.Csv.RoundTrip
import TypedImport.Proofs.Csv.Rows
import TypedImport.Proofs.Handler.Agreement
import TypedImport.Proofs.Handler.Answers
import TypedImport.Proofs.Handler.Choice
import TypedImport.Proofs.Handler.Declaration
import TypedImport.Proofs.Handler.Decoding
import TypedImport.Proofs.Handler.Definitions
import TypedImport.Proofs.Handler.Fallback
import TypedImport.Proofs.Handler.Log
import TypedImport.Proofs.Handler.Modes
import TypedImport.Proofs.Handler.Origins
import TypedImport.Proofs.Handler.Resolution
import TypedImport.Proofs.Handler.Verification
import TypedImport.Proofs.Handler.Waiting
import TypedImport.Proofs.Handler.Work
import TypedImport.Proofs.Import.Checks
import TypedImport.Proofs.Import.FileNames
import TypedImport.Proofs.Import.Pairs
import TypedImport.Proofs.Import.Specifiers
import TypedImport.Proofs.Import.Validation
import TypedImport.Proofs.Loader.Choices
import TypedImport.Proofs.Loader.Computations
import TypedImport.Proofs.Loader.Containment
import TypedImport.Proofs.Loader.Declared
import TypedImport.Proofs.Loader.Demands
import TypedImport.Proofs.Loader.Diagnostics
import TypedImport.Proofs.Loader.Early
import TypedImport.Proofs.Loader.Identities
import TypedImport.Proofs.Loader.Integrity
import TypedImport.Proofs.Loader.LifeCycle
import TypedImport.Proofs.Loader.Natives
import TypedImport.Proofs.Loader.Phases
import TypedImport.Proofs.Loader.Progress
import TypedImport.Proofs.Loader.Requests
import TypedImport.Proofs.Loader.Series
import TypedImport.Proofs.Loader.Sources
import TypedImport.Proofs.Loader.Statistics
import TypedImport.Proofs.Loader.Steps
import TypedImport.Proofs.Loader.Transparency
import TypedImport.Proofs.Loader.Turns
import TypedImport.Proofs.Loader.Validation
import TypedImport.Proofs.Source.Attempts
import TypedImport.Proofs.Source.ContentTypes
import TypedImport.Proofs.Source.Retries
import TypedImport.Proofs.Text.Characters
import TypedImport.Proofs.Text.Pieces
import TypedImport.Proofs.Text.Spelling
import TypedImport.Proofs.Text.Utf8
import TypedImport.Proofs.Url.FilePath
import TypedImport.Proofs.Url.Names
import TypedImport.Proofs.Url.Percent
import TypedImport.Proofs.Url.PlainName
import TypedImport.Proofs.Url.Reading
import TypedImport.Proofs.Source.Encodings
