import Discovery.Cli.Error
import Discovery.Cli.Grammar
import Discovery.Cli.Parse
import Discovery.Cli.Similar
import Discovery.Corpus.Entry
import Discovery.Corpus.File
import Discovery.Decimal.Binary
import Discovery.Decimal.Shortest
import Discovery.Dir.Scanner
import Discovery.Dns.Resolver
import Discovery.Dns.Scanner
import Discovery.Dns.SpecialUse
import Discovery.Dns.Zone
import Discovery.Error
import Discovery.Files.Tree
import Discovery.Finding
import Discovery.Http.Client
import Discovery.Json.Number
import Discovery.Json.Read
import Discovery.Json.Value
import Discovery.Json.Write
import Discovery.Main
import Discovery.Net.Ip
import Discovery.Options.Basic
import Discovery.Options.Document
import Discovery.Options.Lists
import Discovery.Options.Validate
import Discovery.Order
import Discovery.Output.Files
import Discovery.Output.JsonLines
import Discovery.Output.Log
import Discovery.Output.Progress
import Discovery.Output.Writer
import Discovery.Plugin
import Discovery.Pool.Machine
import Discovery.Pool.Run
import Discovery.Program
import Discovery.Tally
import Discovery.Target
import Discovery.Text.Blank
import Discovery.Text.Digit
import Discovery.Text.Lines
import Discovery.Text.Number
import Discovery.Text.Pad
import Discovery.Text.Quoted
import Discovery.Text.Search
import Discovery.Text.Utf8
import Discovery.Time
import Discovery.Transport
import Discovery.Transport.Scripted
import Discovery.Web.Form
import Discovery.Web.Host
import Discovery.Web.Idna
import Discovery.Web.Parse
import Discovery.Web.Percent
import Discovery.Web.Punycode
import Discovery.Web.Url
import Discovery.Wildcard.Calibrate
import Discovery.Wildcard.Signature
import Discovery.Wildcard.Token
import Discovery.Wordlist.Expansion
import Discovery.Wordlist.Source
import Discovery.Proofs.Corpus.Classes
import Discovery.Proofs.Corpus.Reparse
import Discovery.Proofs.Dir.Archive
import Discovery.Proofs.Dir.Render
import Discovery.Proofs.Dns.Lookup
import Discovery.Proofs.Files.Frame
import Discovery.Proofs.Json.Readback
import Discovery.Proofs.Output.Sinks
import Discovery.Proofs.Pool.Backlog
import Discovery.Proofs.Pool.Cancellation
import Discovery.Proofs.Pool.Counters
import Discovery.Proofs.Pool.Ledger
import Discovery.Proofs.Pool.Moves
import Discovery.Proofs.Pool.Outcome
import Discovery.Proofs.Pool.Progress
import Discovery.Proofs.Pool.Sequential
import Discovery.Proofs.Target.Scheme
import Discovery.Proofs.Text.LineFeed
import Discovery.Proofs.Web.Read
import Discovery.Proofs.Wildcard.Calibration
import Discovery.Proofs.Wildcard.Probes
import Discovery.Proofs.Wildcard.Suppression
import Discovery.Proofs.Wildcard.Template
import Discovery.Proofs.Wordlist.Count
