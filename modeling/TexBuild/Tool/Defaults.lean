import TexBuild.Environment
import TexBuild.Fault
import TexBuild.Number.Numeral
import TexBuild.Tool.Basic

namespace TexBuild.Environment

/-- The span of seconds that a variable holds; one that is missing or empty leaves
the span that is given. -/
def seconds (env : Environment) (name : String) (otherwise : Seconds) : Except Fault Seconds :=
  match env.get? name with
  | none => .ok otherwise
  | some text =>
    if text = "" then .ok otherwise
    else
      match Numeral.binary64? text with
      | some x => .ok (.binary x)
      | none => .error (.notANumber text)

/-- The engine that the variables name, or the usual one. -/
def engine (env : Environment) : String :=
  match env.get? "LATEX_COMPILER" with
  | some text => if text = "" then fallbackEngine else text
  | none => fallbackEngine

/-- How long an engine may take to tell its version when nothing else is said: ten
seconds. -/
def usualProbeLimit : Seconds :=
  .binary (Binary64.ofInt 10)

/-- How long an engine may take to tell its version. -/
def probeLimit (env : Environment) : Except Fault Seconds :=
  env.seconds "TOOL_PROBE_TIMEOUT" usualProbeLimit

end TexBuild.Environment
