import TexBuild.Report.Moment
import TexBuild.Session
import TexBuild.Text.Ansi
import TexBuild.Text.Utf8

namespace TexBuild

/-- A text at a width, with blanks after it. -/
def padded (width : Nat) (s : String) : String :=
  s ++ String.ofList (List.replicate (width - s.length) ' ')

/-- The styles in which a level is shown. -/
def Level.styles : Level → List Ansi.Style
  | .trace => [.cyan, .bold]
  | .debug => [.blue, .bold]
  | .info => [.bold]
  | .success => [.green, .bold]
  | .warning => [.yellow]
  | .error => [.red]
  | .critical => [.bold, .red]

namespace Notice

/-- The record as a line of a file, at a time. -/
def line (time : String) (n : Notice) : String :=
  if n.verbatim then n.text else s!"{time} | {padded 7 n.level.text} | {n.text}\n"

/-- The record as it is shown on a terminal, at a time. -/
def shown (time : String) (n : Notice) : String :=
  if n.verbatim then n.text
  else
    s!"{time} | {Ansi.styled n.level.styles (padded 7 n.level.text)} | {Ansi.styled n.level.styles n.text}\n"

/-- The records of at least a level. -/
def atLeast (least : Level) (ns : List Notice) : List Notice :=
  ns.filter fun n => least.rank ≤ n.level.rank

end Notice

/-- What is known about a run of the program: its command line, the version of
what it runs on, and the moment. -/
structure Provenance where
  arguments : List String
  version : String
  moment : Moment

/-- Where the journal goes: to a terminal from a level on, and to a file in full. -/
structure Journal where
  least : Level
  file : Option (Path × Nat)
  provenance : Provenance

namespace Journal

/-- The line before and after where a run comes from. -/
def rule : Notice :=
  Notice.plain .debug (String.ofList (List.replicate 80 '='))

/-- A record about where a run comes from. -/
def entry (key value : String) : Notice :=
  Notice.plain .debug s!"{key}: {value}"

/-- The records about where a run comes from, up to what is not known: the name of the
program, or the directory at hand. -/
def provenanceNotices (p : Provenance) (cwd : Except Fault Path) (extra : List (String × String)) :
    List Notice × Option Fault :=
  match p.arguments with
  | [] => ([rule], some .noProgramName)
  | program :: _ =>
    let head := [rule, entry "Script" program, entry "Command" (" ".intercalate p.arguments)]
    match cwd with
    | .error fault => (head, some fault)
    | .ok cwd =>
      (head ++ [entry "Working directory" cwd.text, entry "Python" p.version] ++
        extra.map (fun e => entry e.1 e.2) ++ [rule], none)

/-- Makes the directory of a file and those above it. A name that the system cannot read
stops it where it stands. -/
def makeRoom (directory : Path) : Act Unit := do
  let clean := { directory with names := directory.names.takeWhile fun n => Text.isFit n.chars }
  let (v, result) := (← Act.host).volume.fillDirectories clean
  Act.setVolume v
  match result with
  | .error cause => throw (.system cause)
  | .ok _ => unless Volume.isClean directory do throw (.unfit directory.text)

/-- Opens the file of a journal in a directory, which is made if it is missing. What
the file holds already stays. The moment may stand by its name in the path of the file,
and two dots are taken by their spelling, so that the file may be elsewhere than in the
directory and at another path than the one that is told. -/
def openFile (p : Provenance) (directory : Path) (context : String) : Act (Path × Nat) := do
  unless Volume.isClean directory do throw (.unfit directory.text)
  let h ← Act.host
  let (v, made) := h.makeDirectories directory
  Act.setVolume v
  match made with
  | .error (.refused cause) => throw (.system cause)
  | .error .tooDeep => throw .stackOverflow
  | .ok _ => pure ()
  let path := directory.join (Path.ofString (context ++ ".log"))
  let values (name : String) : Option Template.Value :=
    if name = "time" then some p.moment.templateValue else none
  let filled ← MonadExcept.ofExcept ((Template.fill values path.text).mapError Fault.template)
  let whole := ((Volume.spell h.cwd).join (Path.ofString filled)).flattened
  makeRoom whole.parent
  unless Volume.isClean whole do throw (.unfit whole.text)
  let v := (← Act.host).volume
  match v.write [] whole.text id with
  | .error e => throw (.system (.about e whole.text))
  | .ok v => do
    Act.setVolume v
    match v.find [] whole.text with
    | .ok (_, .file id) => return (path, id)
    | _ => return (path, v.next)

/-- Writes records into the file of a journal. -/
def save (j : Journal) (ns : List Notice) : Act Unit := do
  match j.file with
  | none => return
  | some (_, id) =>
    let text := String.join ((Notice.atLeast .debug ns).map (Notice.line j.provenance.moment.recordText))
    let v := (← Act.host).volume
    match v.data? id with
    | some d =>
      Act.setVolume (v.putData id { d with bytes := d.bytes ++ Utf8.encode text.toList })
    | none => return

/-- Opens a journal and begins it with where the run comes from. The file is opened
before the level is looked at, and keeps what is known about a run of which not all
is. -/
def start (p : Provenance) (context : String) (directory : Option Path)
    (extra : List (String × String)) (level : String) : Act Journal := do
  let file ← match directory with
    | some d => do
      let f ← openFile p d context
      pure (some f)
    | none => pure none
  match Level.ofText? level with
  | none => throw (.unknownLevel level)
  | some least => do
    let journal : Journal := ⟨least, file, p⟩
    let (notices, fault?) := provenanceNotices p (← Act.host).workingDirectory extra
    match fault? with
    | some fault => do
      journal.save notices
      throw fault
    | none => do
      Act.tellAll notices
      return journal

/-- The context in which builds are reported. -/
def buildContext : String := "build"

/-- The engine that is named by the variables, for the record. -/
def engineRecord (h : Host) : String × String :=
  ("LaTeX compiler", (h.environment.get? "LATEX_COMPILER").getD "pdflatex")

/-- Opens a journal about builds. -/
def startBuild (p : Provenance) (directory : Option Path) (verbose : Bool) : Act Journal := do
  start p buildContext directory [engineRecord (← Act.host)] (if verbose then "DEBUG" else "INFO")

/-- Records as a terminal shows them. -/
def shown (j : Journal) (ns : List Notice) : String :=
  String.join ((Notice.atLeast j.least ns).map (Notice.shown j.provenance.moment.recordText))

end Journal

end TexBuild
