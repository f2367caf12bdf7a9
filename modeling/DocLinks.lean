import DocLinks.Decimal.Shortest
import DocLinks.Json.Fault
import DocLinks.Json.Scan
import DocLinks.Json.Reader
import DocLinks.Json.Content
import DocLinks.Json.Value
import DocLinks.Json.Write
import DocLinks.Reflection.Kind
import DocLinks.Types.Expr
import DocLinks.Types.Record
import DocLinks.Options
import DocLinks.Error
import DocLinks.Journal
import DocLinks.Reflection.Basic
import DocLinks.Symbols.Table
import DocLinks.Resolve.Attempt
import DocLinks.Project
import DocLinks.Dump
import DocLinks.Convert
import DocLinks.Report
import DocLinks.Document
import DocLinks.Session
import DocLinks.Text.Hidden
import DocLinks.Text.Jaro
import DocLinks.Cli.Grammar
import DocLinks.Cli.Parse
import DocLinks.Cli.Files
import DocLinks.Cli.Commands
import DocLinks.Cli.Run
import DocLinks.Read.Kind
import DocLinks.Read.Record
import DocLinks.Read.Options
import DocLinks.Read.Dump
import DocLinks.Read.Codec
import DocLinks.Main
import DocLinks.Proofs.Types.Walk
import DocLinks.Proofs.Types.RoundTrip
import DocLinks.Proofs.Resolve.Pass
import DocLinks.Proofs.Resolve.Schedule
import DocLinks.Proofs.Convert.Binding
import DocLinks.Proofs.Document.Links
import DocLinks.Proofs.Symbols.Registration
import DocLinks.Proofs.Session.Slots
import DocLinks.Proofs.Session.Passes
import DocLinks.Proofs.Types.Build
import DocLinks.Proofs.Convert.Refusal
import DocLinks.Proofs.Project.Forest
import DocLinks.Proofs.Report.Unbound
import DocLinks.Proofs.Types.Extras
import DocLinks.Proofs.Types.Display
