import RouteShortcuts.Config
import RouteShortcuts.Declaration
import RouteShortcuts.Scan
import RouteShortcuts.Script.Source
import RouteShortcuts.Session
import RouteShortcuts.Settings
import RouteShortcuts.CommandLine.Argument
import RouteShortcuts.CommandLine.Fault
import RouteShortcuts.CommandLine.Reader
import RouteShortcuts.CommandLine.Report
import RouteShortcuts.CommandLine.Run
import RouteShortcuts.Rpc
import RouteShortcuts.Proofs.Session.Passes
import RouteShortcuts.Proofs.Tools.History
import RouteShortcuts.Proofs.Tools.Numbers
import RouteShortcuts.Proofs.Discovery.LiteralBase
import RouteShortcuts.Proofs.Tools.Reports
import RouteShortcuts.Proofs.Session.Arrivals
import RouteShortcuts.Proofs.Declaration.Meaning
import RouteShortcuts.Proofs.Tools.Fresh
import RouteShortcuts.Proofs.Declaration.Written
import RouteShortcuts.Proofs.Scan.Accounts
import RouteShortcuts.Proofs.Declaration.Parentheses
import RouteShortcuts.Proofs.CommandLine.Warnings
import RouteShortcuts.Proofs.Tools.Shown
import RouteShortcuts.Proofs.Manifest.Complete
import RouteShortcuts.Proofs.Discovery.Distinct
import RouteShortcuts.Proofs.CommandLine.Agreement
import RouteShortcuts.Proofs.Json.Reading
import RouteShortcuts.Proofs.Json.RoundTrip
import RouteShortcuts.Proofs.Tools.Isolation
import RouteShortcuts.Proofs.Config.RoundTrip
import RouteShortcuts.Proofs.Manifest.RoundTrip
import RouteShortcuts.Proofs.Script.Data
import RouteShortcuts.Proofs.Manifest.Silent
import RouteShortcuts.Proofs.Files.Growth
import RouteShortcuts.Proofs.Files.Way
import RouteShortcuts.Proofs.Files.Listing
import RouteShortcuts.Proofs.Config.Kept
import RouteShortcuts.Proofs.Discovery.Additions
import RouteShortcuts.Proofs.CommandLine.Stable
import RouteShortcuts.Proofs.Scan.Isolation
import RouteShortcuts.Proofs.Declaration.Properties
import RouteShortcuts.Proofs.Declaration.Forms
import RouteShortcuts.Proofs.Discovery.Composition
import RouteShortcuts.Proofs.Files.Order
import RouteShortcuts.Proofs.Files.Reordered
import RouteShortcuts.Proofs.Files.Prefix
import RouteShortcuts.Proofs.Discovery.Order
import RouteShortcuts.Proofs.Files.Named
import RouteShortcuts.Proofs.Config.Nearest
import RouteShortcuts.Proofs.CommandLine.Priority
import RouteShortcuts.Proofs.Files.Added
import RouteShortcuts.Proofs.Glob.Ending
import RouteShortcuts.Proofs.Discovery.Defaults
import RouteShortcuts.Proofs.Config.Added
import RouteShortcuts.Proofs.CommandLine.Init
import RouteShortcuts.Proofs.Manifest.Settled
import RouteShortcuts.Proofs.Manifest.Icons
import RouteShortcuts.Proofs.Json.Controls
import RouteShortcuts.Proofs.Styled.Sequences
import RouteShortcuts.Proofs.CommandLine.Colours
