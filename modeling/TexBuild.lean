import TexBuild.Text.Search
import TexBuild.Text.Lines
import TexBuild.Text.Utf8
import TexBuild.Text.Json
import TexBuild.Text.Ansi
import TexBuild.Number.Shortest
import TexBuild.Number.Numeral
import TexBuild.Path.Artifact
import TexBuild.Diagnostic.Scan
import TexBuild.Report.Listing
import TexBuild.Fault
import TexBuild.Tool.Basic
import TexBuild.Build.Document
import TexBuild.Table.Locations
import TexBuild.Volume.Change
import TexBuild.Host
import TexBuild.Shell.Pattern
import TexBuild.Shell.Reader
import TexBuild.Text.Octet
import TexBuild.Shell.State
import TexBuild.Shell.Arithmetic
import TexBuild.Shell.Expand
import TexBuild.Shell.Condition
import TexBuild.Shell.Printing
import TexBuild.Shell.Utility
import TexBuild.Shell.Run
import TexBuild.Build.Launch
import TexBuild.Build.Supervision
import TexBuild.Session
import TexBuild.Tool.Search
import TexBuild.Build.Directory
import TexBuild.Tool.Requirements
import TexBuild.Build.Compile
import TexBuild.Shell.Course
import TexBuild.Report.Journal
import TexBuild.Text.Encoding
import TexBuild.Command.Option
import TexBuild.Command.Request
import TexBuild.Command.Run
import TexBuild.Tool.Defaults
import TexBuild.Table.File
import TexBuild.Main
import TexBuild.Proofs.Build.Return
import TexBuild.Proofs.Diagnostic.Refusal
import TexBuild.Proofs.Diagnostic.Seam
import TexBuild.Proofs.Path.Spelling
import TexBuild.Proofs.Volume.Directory
import TexBuild.Proofs.Host.Resolution
import TexBuild.Proofs.Build.Leftover
import TexBuild.Proofs.Build.Source
import TexBuild.Proofs.Build.Collection
import TexBuild.Proofs.Build.Interruption
import TexBuild.Proofs.Build.Destination
import TexBuild.Proofs.Build.Ending
import TexBuild.Proofs.Tool.Command
import TexBuild.Proofs.Tool.Lookup
import TexBuild.Proofs.Diagnostic.Record
import TexBuild.Proofs.Tool.Agreement
import TexBuild.Proofs.Build.Invocation
import TexBuild.Proofs.Build.Frame
import TexBuild.Proofs.Diagnostic.Token
import TexBuild.Proofs.Diagnostic.LineEnds
import TexBuild.Proofs.Text.Json.RoundTrip
import TexBuild.Proofs.Command.Document
import TexBuild.Proofs.Diagnostic.Announcement
import TexBuild.Proofs.Diagnostic.Quotation
import TexBuild.Proofs.Tool.Order
import TexBuild.Proofs.Tool.Return
import TexBuild.Proofs.Build.Output
import TexBuild.Proofs.Tool.Naming
import TexBuild.Proofs.Build.Placement
import TexBuild.Proofs.Tool.Locations
import TexBuild.Proofs.Tool.SearchPath
import TexBuild.Proofs.Command.Findings
import TexBuild.Proofs.Command.Display
import TexBuild.Proofs.Path.Artifact
