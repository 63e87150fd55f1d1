import TexBuild.Report.Summary
import TexBuild.Text.Ansi

namespace TexBuild.Report

/-- The colour of a severity on a terminal. -/
def severityStyle : Severity → Ansi.Style
  | .error => .red
  | .warning => .yellow
  | .info => .blue

/-- The number of items that a limit lets through; a negative limit leaves out
that many at the end. -/
def shown (limit : Int) (length : Nat) : Nat :=
  if 0 ≤ limit then limit.toNat else length - limit.natAbs

/-- One finding on one line. -/
def listingLine (d : Diagnostic) : String :=
  Ansi.styled [severityStyle d.severity] s!"  {d.severity.text}: {d.message}{location d}"

/-- The findings up to a limit, one a line, and how many more there are. -/
def listing (ds : List Diagnostic) (limit : Int) : List String :=
  (ds.take (shown limit ds.length)).map listingLine ++
    if limit < ds.length then [s!"  ... and {(ds.length : Int) - limit} more"] else []

end TexBuild.Report
