import TexBuild.Build.Directory
import TexBuild.Build.Document
import TexBuild.Build.Problem
import TexBuild.Build.Programs
import TexBuild.Build.Relocation
import TexBuild.Path.Artifact
import TexBuild.Report.Summary

namespace TexBuild

/-- How documents are built: with the engine that a search finds, in a directory of
its own, within a limit on the engine's time. -/
structure Builder where
  search : Search
  directory : Option Path
  limit : Option Seconds
  verbose : Bool

/-- The two paths of a build, both absolute and without links: its source, and the
directory in which the engine works. -/
structure Plan where
  source : Path
  directory : Path

namespace Plan

/-- The document as the engine leaves it. -/
def artifact (p : Plan) : Path :=
  p.directory.child (artifactName p.source)

/-- The document beside its source. -/
def destination (p : Plan) : Path :=
  p.source.parent.child (artifactName p.source)

/-- The directory from which the engine runs. -/
def workplace (p : Plan) : Loc :=
  p.source.parent.names.reverse

/-- The engine as it is started. -/
def launch (p : Plan) (tool : Tool) (environment : Environment) : Launch :=
  ⟨tool.command, (tool.commandLine p.source p.directory).tail, p.workplace,
    tool.childEnv environment, true⟩

end Plan

/-- A stage of a build: it can end with a problem, which is reported as a result,
or with a fault, which is not. -/
abbrev Stage := ExceptT Problem Act

namespace Stage

/-- Ends with a fault. -/
def fault {α : Type} (f : Fault) : Stage α :=
  (throw f : Act α)

end Stage

namespace Builder

/-- The paths of a build. -/
def plan (b : Builder) (source : Path) : Stage Plan := do
  let h ← Act.host
  let paths : Except Fault Plan := do
    let source ← h.resolve source
    let directory ← h.buildDirectory b.directory
    return ⟨source, directory⟩
  match paths with
  | .ok p => return p
  | .error f => if f.isRefusal then throw (.paths f) else Stage.fault f

/-- Makes the directory in which the engine works. -/
def prepare (p : Plan) : Stage Unit := do
  let h ← Act.host
  let (v, r) := h.makeDirectories p.directory
  Act.setVolume v
  match r with
  | .ok _ => return
  | .error (.refused cause) => throw (.directory p.directory cause)
  | .error .tooDeep => Stage.fault .stackOverflow

/-- Looks whether the source is a regular file. -/
def checkSource (p : Plan) : Stage Unit := do
  match (← Act.host).isFile p.source with
  | .ok true => return
  | .ok false => throw (.noSource p.source)
  | .error cause => Stage.fault (.system cause)

/-- Removes the document of an earlier build, which would be taken for that of this
one. -/
def clear (p : Plan) : Stage Unit := do
  let h ← Act.host
  match h.volume.unlink h.cwd p.artifact.text with
  | .ok v => Act.setVolume v
  | .error .noEntry => return
  | .error e => throw (.stale p.artifact (.about e p.artifact.text))

/-- Finds the engine and what runs when it is started. -/
def engine (b : Builder) (probe : Probe) (p : Plan) : Stage (Launch × Image) := do
  let tool ← (b.search.resolve probe : Act Tool)
  Act.tell (Notice.build .debug tool.describe)
  let h ← Act.host
  let words := tool.commandLine p.source p.directory
  Act.tell (Notice.build .debug ("  Command: " ++ " ".intercalate words))
  let launch := p.launch tool h.environment
  match launch.start h.volume with
  | .ok image => return (launch, image)
  | .error (.system cause) => throw (.start tool.command cause)
  | .error f => Stage.fault f

/-- All stages up to the start of the engine. -/
def begin (b : Builder) (probe : Probe) (source : Path) : Stage (Plan × Launch × Image) := do
  let p ← b.plan source
  Act.tellAll (Report.start p.source p.directory)
  prepare p
  checkSource p
  clear p
  let (launch, image) ← b.engine probe p
  return (p, launch, image)

/-- The limit on the time of an engine, if it has one, is in the reach of a clock. What
is not above zero is over at once. -/
def checkLimit (b : Builder) : Except SpanError Unit :=
  match b.limit with
  | none => .ok ()
  | some l => if l.isPositive then l.toBinary.map fun _ => () else .ok ()

/-- The limit is looked at once the engine has been started. -/
def meetLimit (b : Builder) (events : List Event) : Except SpanError Unit :=
  if Supervision.begins events then b.checkLimit else .ok ()

/-- Watches the engine until it is over. One whose limit is out of reach goes on by itself. -/
def watch (b : Builder) (x : Programs) (launch : Launch) (image : Image) : Act Supervision := do
  let h ← Act.host
  let episode := x.runs b.limit launch image h.volume
  Act.setVolume episode.volume
  MonadExcept.ofExcept ((b.meetLimit episode.events).mapError Fault.span)
  let s := Supervision.run episode.events
  if s.incomplete then
    Act.tell (Notice.build .warning "Compiler output incomplete: pipes still open after kill")
  match s.phase with
  | .over _ => return s
  | .escaped => throw .cancelled
  | _ => throw .unending

/-- The record about the end of an engine. How it ended says nothing about the
document: an engine that met errors may still have made one. -/
def endNotice (s : Supervision) : Notice :=
  let status := match s.life with
    | .reaped ending => toString ending.status
    | _ => "None"
  Notice.build .debug s!"  Exit code: {status}"

/-- The message about an interruption can be written, which names the limit if that was met. -/
def nameLimit (b : Builder) : Interruption → Except SpanError Unit
  | .deadline =>
    match b.limit with
    | some l => l.written
    | none => .ok ()
  | .cancellation => .ok ()

/-- All stages after the end of the engine. -/
def conclude (b : Builder) (relocate : Relocation) (p : Plan) (s : Supervision) : Stage Path := do
  if let .over (some why) := s.phase then
    match b.nameLimit why with
    | .ok _ => throw (.interrupted why b.limit)
    | .error e => Stage.fault (.span e)
  Act.tell (endNotice s)
  match (← Act.host).isFile p.artifact with
  | .ok true => pure ()
  | .ok false => throw .nothingBuilt
  | .error cause => Stage.fault (.system cause)
  match ← (Act.attempt (relocate p.artifact p.destination) : Act (Except Fault Unit)) with
  | .ok _ => return p.destination
  | .error (.relocation cause) => throw (.relocation cause)
  | .error f => Stage.fault f

/-- Builds a document. -/
def build (b : Builder) (x : Programs) (probe : Probe) (relocate : Relocation) (source : Path) :
    Act BuildResult := do
  let elapsed ← Act.elapsed
  match ← (b.begin probe source).run with
  | .error problem => return problem.result "" elapsed
  | .ok (p, launch, image) => do
    let s ← b.watch x launch image
    let log := String.ofList s.output
    match ← (b.conclude relocate p s).run with
    | .error problem => return problem.result log elapsed
    | .ok destination => return ⟨.built destination, log, elapsed⟩

/-- The findings in the log of a build. -/
def findings (log : String) : Except Fault (List Diagnostic) :=
  (Diagnostic.parse log.toList).mapError fun e => .longNumeral e.digits

/-- Builds a document and reports how that went. -/
def compile (b : Builder) (x : Programs) (probe : Probe) (relocate : Relocation) (source : Path) :
    Act BuildResult := do
  let r ← b.build x probe relocate source
  let ds ← MonadExcept.ofExcept (findings r.rawLog)
  let notices ← MonadExcept.ofExcept
    ((Report.result source.nameText r ds b.verbose).mapError Fault.span)
  Act.tellAll notices
  return r

/-- Builds the document that is open. -/
def compileOpen (b : Builder) (x : Programs) (probe : Probe) (relocate : Relocation)
    (d : Document) : Act BuildResult :=
  match d.current with
  | some source => b.compile x probe relocate source
  | none => return Problem.noDocument.result "" .zero

end Builder

end TexBuild
