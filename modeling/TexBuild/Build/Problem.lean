import TexBuild.Build.Supervision
import TexBuild.Fault

namespace TexBuild

/-- What can keep a build from its document, in the order of its stages. -/
inductive Problem where
  | paths (cause : Fault)
  | directory (directory : Path) (cause : SystemError)
  | noSource (source : Path)
  | stale (artifact : Path) (cause : SystemError)
  | start (command : String) (cause : SystemError)
  | interrupted (why : Interruption) (limit : Option Seconds)
  | nothingBuilt
  | relocation (cause : RelocationError)
  | noDocument
deriving DecidableEq

namespace Problem

/-- The kind of failure that a problem is. -/
def failure : Problem → Failure
  | paths _ | directory .. | noSource _ | stale .. | noDocument => .environment
  | start .. => .toolMissing
  | interrupted .deadline _ => .timeout
  | interrupted .cancellation _ => .cancelled
  | nothingBuilt => .compilation
  | relocation _ => .relocation

/-- The text of a limit on time; there may be none. -/
def limitText : Option Seconds → String
  | some s => s.text
  | none => "None"

/-- A problem in words. -/
def message : Problem → String
  | paths cause => s!"Cannot resolve build paths: {cause.message}"
  | directory d cause => s!"Failed to create build directory {d}: {cause.message}"
  | noSource source => s!"Source file not found: {source}"
  | stale artifact cause => s!"Failed to remove stale build output {artifact}: {cause.message}"
  | start command cause =>
    s!"Failed to run {command}: {cause.message}. Make sure TeX Live or MiKTeX is installed."
  | interrupted .deadline limit => s!"Compilation timed out after {limitText limit} seconds"
  | interrupted .cancellation _ => "Compilation cancelled"
  | nothingBuilt => "Compilation failed - no PDF generated"
  | relocation cause => cause.message
  | noDocument => "No file is currently open"

/-- The result of a build that met a problem, with what the engine wrote and the time that it
took. -/
def result (p : Problem) (log : String) (elapsed : Seconds) : BuildResult :=
  ⟨.failed p.failure p.message, log, elapsed⟩

end Problem

end TexBuild
