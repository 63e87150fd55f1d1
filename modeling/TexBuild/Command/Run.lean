import TexBuild.Build.Compile
import TexBuild.Command.Request
import TexBuild.Report.Journal
import TexBuild.Report.Listing
import TexBuild.Text.Encoding
import TexBuild.Text.Json
import TexBuild.Tool.Requirements

namespace TexBuild.Command

/-- What the program is set up with: how the programs behave that it starts, how long
an engine may take to tell its version, the engine and the platform when nothing
else is said, where logs of builds are kept, and where the run comes from. The help, and
what is said of a command line that makes no request, are texts of what reads it. -/
structure Setup where
  programs : Programs
  probeLimit : Seconds
  engine : String
  platform : String
  logs : Option String
  provenance : Provenance
  help : String
  complaint : List String → String

/-- What a run leaves: its exit code, and the texts on its two streams. -/
structure Printed where
  code : Nat
  stdout : String
  stderr : String

/-- A path for the reader: from the directory at hand if it lies below it. -/
def displayed (h : Host) (p : Path) : Except Fault String :=
  match h.canonical p with
  | .error .nulInText | .error .loneSurrogate => .ok p.text
  | .error f => .error f
  | .ok q => do
    let cwd ← h.workingDirectory
    match q.relativeTo? cwd with
    | some below => return below.text
    | none => return p.text

/-- Lines of text. -/
def lines (ls : List String) : String :=
  String.join (ls.map (· ++ "\n"))

/-- Text that may be missing. -/
def jsonText : Option String → Json
  | some s => .string s
  | none => .null

/-- A finding as data. -/
def jsonFinding (d : Diagnostic) : Json :=
  .object [("severity", .string d.severity.text), ("message", .string d.message),
    ("file", jsonText d.file), ("line", (d.line.map Json.number).getD .null),
    ("column", (d.column.map Json.number).getD .null)]

/-- Findings as data. -/
def jsonFindings (ds : List Diagnostic) : Json :=
  .array (ds.map jsonFinding)

/-- The fields of a result as data. -/
def jsonFields (r : BuildResult) : Except Fault (List (String × Json)) := do
  let ms ← r.duration.milliseconds.mapError Fault.span
  return [("success", .bool r.success), ("artifact_path", jsonText (r.artifact?.map Path.text)),
    ("raw_log", .string r.rawLog), ("duration_ms", .number ms),
    ("error_message", jsonText r.message?), ("failure", jsonText (r.failure?.map Failure.text))]

/-- A good end on a terminal. -/
def goodEnd (text : String) : String :=
  Ansi.styled [.green, .bold] ("✓ " ++ text)

/-- A bad end on a terminal. -/
def badEnd (text : String) : String :=
  Ansi.styled [.red, .bold] ("✗ " ++ text)

/-- The findings of a build that are listed for the reader. -/
def buildListing : Int := 10

/-- What a build tells the reader. -/
def buildText (h : Host) (r : BuildResult) (ds : List Diagnostic) (verbose : Bool)
    (log : Option Path) : Except Fault String := do
  let head ← match r.outcome with
    | .built artifact => do
      let shown ← displayed h artifact
      pure [goodEnd "Compilation succeeded", s!"  Warnings: {Diagnostic.count .warning ds}",
        s!"  PDF: {shown}"]
    | .failed _ message => pure [badEnd message, s!"  Errors: {Diagnostic.count .error ds}"]
  let elapsed ← r.duration.clock.mapError Fault.span
  let findings := if ds ≠ [] ∧ (verbose ∨ !r.success) then
      "\nDiagnostics:" :: Report.listing ds buildListing
    else []
  let logLine ← match log with
    | some p => do
      let shown ← displayed h p
      pure [s!"  Log: {shown}"]
    | none => pure []
  return lines ([""] ++ head ++ [s!"  Time: {elapsed}"] ++ findings ++ logLine ++ [""])

/-- Where the log of a build is kept. -/
def logDirectory (s : Setup) : Option Path :=
  match s.logs with
  | some d => if d = "" then none else some ((Path.ofString d).join (Path.ofString ("build_" ++ s.provenance.moment.stamp)))
  | none => none

/-- The search for the engine that is asked for, or for the usual one. -/
def searchFor (s : Setup) (engine : Option String) : Search :=
  match engine with
  | some name => Search.forCommand (if name = "" then s.engine else name) none s.platform
  | none => Search.forCommand s.engine none s.platform

/-- Builds a document from the command line. The session begins with an empty
journal, which is shown as it goes and kept in the log. -/
def build (s : Setup) (r : BuildRequest) : Act Printed := do
  let journal ← Journal.startBuild s.provenance (logDirectory s) r.verbose
  let b : Builder := ⟨searchFor s r.engine, r.directory, r.limit, r.verbose⟩
  let done ← Act.attempt (b.compile s.programs (s.programs.probe s.probeLimit) place r.source)
  let notices := (← get).journal
  journal.save notices
  let result ← MonadExcept.ofExcept done
  let ds ← MonadExcept.ofExcept (Builder.findings result.rawLog)
  let code := if result.success then 0 else 1
  let stderr := journal.shown notices
  if r.asJson then
    let fields ← MonadExcept.ofExcept (jsonFields result)
    return ⟨code, lines [(Json.object (fields ++ [("diagnostics", jsonFindings ds)])).render], stderr⟩
  else
    let text ← Act.ask fun h => buildText h result ds r.verbose (journal.file.map (·.1))
    return ⟨code, text, stderr⟩

/-- The encoding of a name. -/
def encodingOf (name : String) : Except Fault Encoding :=
  match Encoding.ofName? name with
  | some e => .ok e
  | none =>
    .error (if Encoding.isOctetCodec name then .notTextEncoding name else .unknownEncoding name)

/-- The text of a saved log. The file is read before its encoding is looked for. -/
def readLog (h : Host) (r : LogRequest) : Except Fault (List Char) := do
  if r.encoding.toList.contains (Char.ofNat 0) then throw .nulInWord
  unless Volume.isClean r.log do throw (.unfit r.log.text)
  let bytes ← (h.volume.read h.cwd r.log.text).mapError fun e => .system (.about e r.log.text)
  let e ← encodingOf r.encoding
  let cs ← (e.decode bytes).mapError Fault.decoding
  return Text.unifyLineEnds cs

/-- What the reading of a log tells the reader. -/
def logText (r : LogRequest) (ds : List Diagnostic) : String :=
  if r.asJson then lines [(jsonFindings ds).render]
  else if ds = [] then lines [Ansi.styled [.green] "No diagnostics found"]
  else
    lines (Ansi.styled [.bold]
        s!"{Diagnostic.count .error ds} errors, {Diagnostic.count .warning ds} warnings" ::
      Report.listing ds r.limit)

/-- Reads a saved log. -/
def diagnose (r : LogRequest) : Act Printed := do
  let text ← Act.ask fun h => readLog h r
  let ds ← MonadExcept.ofExcept (Builder.findings (String.ofList text))
  return ⟨if Diagnostic.count .error ds = 0 then 0 else 1, logText r ds, ""⟩

/-- Tells whether an engine can be used. -/
def check (s : Setup) : Act Printed := do
  let r ← (searchFor s none).requirements (s.programs.probe s.probeLimit)
  if r.satisfied then
    let path := r.path.getD "None"
    return ⟨0, lines [goodEnd "LaTeX compiler available", s!"  Path: {path}"], ""⟩
  else
    return ⟨1, lines [badEnd "LaTeX compiler not found",
      "  Install TeX Live, MiKTeX or MacTeX, or set LATEX_COMPILER."], ""⟩

/-- Tells where an engine is looked for. -/
def locate (s : Setup) : Act Printed := do
  let text ← (searchFor s none).describe
  return ⟨0, lines [text], ""⟩

/-- Does what a request asks for. -/
def perform (s : Setup) : Request → Act Printed
  | .help => return ⟨0, s.help, ""⟩
  | .build r => build s r
  | .diagnose r => diagnose r
  | .check => check s
  | .locate => locate s

/-- The exit code of a command line that makes no request. -/
def usageCode : Nat := 2

/-- Runs a command line. -/
def run (s : Setup) (arguments : List String) : Act Printed := do
  match Request.parse (← Act.host) arguments with
  | some r => perform s r
  | none => return ⟨usageCode, "", s.complaint arguments⟩

end TexBuild.Command
