import TexBuild.Build.Result
import TexBuild.Diagnostic.Basic
import TexBuild.Report.Notice
import TexBuild.Text.Blank

namespace TexBuild.Report

/-- The line of a finding, as it follows the message. -/
def location (d : Diagnostic) : String :=
  match d.line with
  | some n => s!" (line {n})"
  | none => ""

/-- The first `limit` items, each with its number, and one more record when there
are more. -/
def numbered (level : Level) (limit : Nat) (item : Nat → Diagnostic → String)
    (more : Nat → String) (ds : List Diagnostic) : List Notice :=
  ((ds.take limit).zipIdx 1).map (fun (d, i) => Notice.build level (item i d)) ++
    if limit < ds.length then [Notice.build level (more (ds.length - limit))] else []

/-- The number of errors that are listed. -/
def errorLimit (verbose : Bool) : Nat :=
  if verbose then 10 else 5

/-- The number of warnings that are listed. -/
def warningLimit (verbose : Bool) : Nat :=
  if verbose then 10 else 3

/-- The records about the errors of a failed build. -/
def errorList (verbose : Bool) (errors : List Diagnostic) : List Notice :=
  numbered .error (errorLimit verbose) (fun i d => s!"  Error {i}: {d.message}{location d}")
    (fun k => s!"  ... and {k} more errors") errors

/-- The records about the warnings of a build. -/
def warningList (verbose : Bool) (warnings : List Diagnostic) : List Notice :=
  if warnings = [] then []
  else
    Notice.build .warning s!"{warnings.length} warnings detected" ::
      numbered .debug (warningLimit verbose) (fun i d => s!"  Warning {i}: {d.message}")
        (fun k => s!"  ... and {k} more warnings") warnings

/-- A line across the page. -/
def rule : String :=
  String.ofList (List.replicate 80 '=')

/-- The output of the engine as it came, between rules. -/
def rawRecord (output : String) : Notice :=
  ⟨.debug, "\n" ++ rule ++ "\nCOMPILER OUTPUT:\n" ++ rule ++ "\n" ++ output ++ "\n", true⟩

/-- The output is recorded when more is asked for or the build failed, unless it
is blank. -/
def rawOutput (verbose : Bool) (r : BuildResult) : List Notice :=
  if (verbose || !r.success) && !Text.isBlankText r.rawLog.toList then [rawRecord r.rawLog]
  else []

/-- The records about the end of a build with the given findings. -/
def result (sourceName : String) (r : BuildResult) (ds : List Diagnostic) (verbose : Bool) :
    Except SpanError (List Notice) := do
  let elapsed ← r.duration.clock
  let errors := Diagnostic.select .error ds
  let warnings := Diagnostic.select .warning ds
  let head := match r.outcome with
    | .built artifact =>
      [Notice.build .success
          s!"{sourceName}: compiled with {warnings.length} warnings ({elapsed})",
        Notice.build .debug s!"  PDF: {artifact}"]
    | .failed _ message =>
      Notice.build .error s!"{sourceName}: {message} ({elapsed})" :: errorList verbose errors
  return head ++ warningList verbose warnings ++ rawOutput verbose r

/-- The records at the start of a build. -/
def start (source buildDir : Path) : List Notice :=
  [Notice.build .info s!"Starting compilation: {source.nameText}",
    Notice.build .debug s!"  Source: {source}",
    Notice.build .debug s!"  Build directory: {buildDir}"]

end TexBuild.Report
