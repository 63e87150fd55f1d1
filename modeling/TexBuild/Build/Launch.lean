import TexBuild.Environment
import TexBuild.Fault
import TexBuild.Volume.Copy
import TexBuild.Volume.Image

namespace TexBuild

/-- A program to be started: its command line, the directory in which it runs, its variables, and
whether it has to go to the directory first. One that has not is there because its caller is. -/
structure Launch where
  command : String
  arguments : List String
  directory : Loc
  environment : Environment
  enters : Bool
deriving DecidableEq

namespace Launch

/-- Where a program is looked for when no search path is set. -/
def defaultSearch : String := "/bin:/usr/bin"

/-- The paths at which a program may be: a command with a slash is a path itself,
any other is looked for in each entry of the search path, of which an empty one is
the directory of the program. -/
def places (l : Launch) : List String :=
  if l.command.toList.contains '/' then [l.command]
  else
    (Environment.searchEntries ((l.environment.get? "PATH").getD defaultSearch)).map fun entry =>
      Volume.within entry l.command.toList

/-- The first of some paths that can be run. A refusal other than absence is
remembered, and is the reason if all fail. -/
def firstRunnable (v : Volume) (cwd : Loc) : List String → Option Errno → Errno → Except Errno Image
  | [], remembered, last => .error (remembered.getD last)
  | path :: rest, remembered, _ =>
    match v.load cwd path with
    | .ok image => .ok image
    | .error e =>
      firstRunnable v cwd rest
        (if remembered = none ∧ e ≠ .noEntry ∧ e ≠ .notDirectory then some e else remembered) e

/-- What runs when the program is started in its directory. -/
def image (l : Launch) (v : Volume) : Except Errno Image :=
  firstRunnable v l.directory l.places none .noEntry

/-- The system takes every part of the command line. -/
def isClean (l : Launch) : Bool :=
  (l.command :: l.arguments).all fun word => Text.isFit word.toList

/-- What a command line ends in that the system does not take. The command is read before the other
words. -/
def unfit (l : Launch) : Fault :=
  .unfit (if Text.isFit l.command.toList then String.join l.arguments else l.command)

/-- Where the program is before anything is looked for: the directory that the spelling of its
own leads to, which it may pass through, if it has to go there. -/
def station (l : Launch) (v : Volume) : Except Errno Loc :=
  if l.enters then do
    let (loc, e) ← v.find [] (Volume.spell l.directory).text
    match e with
    | .directory mode => if Volume.mayEnter mode then return loc else throw .accessDenied
    | _ => throw .notDirectory
  else .ok l.directory

/-- A refusal to go to the directory of a program, which is shown with the type of its path. -/
def stationRefusal (l : Launch) (e : Errno) : SystemError :=
  .described s!"[Errno {e.code}] {e.text}: PosixPath({quoted (Volume.spell l.directory).text})"

/-- What runs when the program is started, or the refusal as it is reported, which
names the command as it was given, or the directory if that is what refuses. -/
def start (l : Launch) (v : Volume) : Except Fault Image := do
  unless l.isClean do throw l.unfit
  let directory ← (l.station v).mapError fun e => .system (l.stationRefusal e)
  ({ l with directory }.image v).mapError fun e => .system (.about e l.command)

end Launch

end TexBuild
