import TexBuild.Build.Launch
import TexBuild.Build.Supervision
import TexBuild.Tool.Search

namespace TexBuild

/-- All that is seen of one run of an engine: what happens, in its order, and the
volume that is left. -/
structure Episode where
  events : List Event
  volume : Volume

/-- How the programs behave that a build starts. One that is asked for its version
answers within a time or does not; one that is run shows an episode, in which the
limit on its time is met as a deadline. Both may change the volume. -/
structure Programs where
  answers : Seconds → Launch → Image → Volume → Bool × Volume
  shows : Option Seconds → Launch → Image → Volume → Episode

namespace Programs

/-- What is seen of one run within a limit. Without one there is no deadline. -/
def runs (x : Programs) (limit : Option Seconds) (launch : Launch) (image : Image) (v : Volume) :
    Episode :=
  let episode := x.shows limit launch image v
  { episode with events :=
      if limit.isSome then episode.events else episode.events.filter (· != .deadline) }

/-- Asks for the version of an engine. -/
def versionFlag : String := "--version"

/-- A request for the version, made from where the caller is. -/
def versionLaunch (h : Host) (command : String) : Launch :=
  ⟨command, [versionFlag], h.cwd, h.environment, false⟩

/-- The probe that runs a command for its version. One that cannot be started does
not answer. -/
def probe (x : Programs) (limit : Seconds) : Probe := fun command => do
  let h ← Act.host
  let launch := versionLaunch h command
  match launch.start h.volume with
  | .ok image => do
    -- the end of the time is a moment of a clock
    let _ ← MonadExcept.ofExcept (limit.toBinary.mapError Fault.span)
    let (answer, v) := x.answers limit launch image h.volume
    Act.setVolume v
    return answer
  | .error (.system _) => return false
  | .error fault => throw fault

end Programs

end TexBuild
