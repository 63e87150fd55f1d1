import TexBuild.Tool.Search

namespace TexBuild

/-- Whether the engine that a search finds can be used, its path if it can, and whether all that
is needed is there; only an engine is needed. -/
structure Requirements where
  available : Bool
  path : Option String
  satisfied : Bool
deriving DecidableEq

namespace Search

/-- A spelling leads to something other than a directory that may be run. -/
def isRunnable (h : Host) (path : String) : Bool :=
  Text.isFit path.toList &&
    match h.volume.find h.cwd path with
    | .ok (_, .directory _) => false
    | .ok (_, e) => Volume.mayEnter (h.volume.modeOf e)
    | .error _ => false

/-- The first place on the search path at which a command can be run; a command
with a slash has only its own. An empty search path has no places. -/
def which (h : Host) (command : String) : Option String :=
  if command.toList.contains '/' then
    if isRunnable h command then some command else none
  else
    let path := (h.environment.get? "PATH").getD Launch.defaultSearch
    if path = "" then none
    else
      ((Environment.searchEntries path).map fun entry => Volume.within entry command.toList).find?
        (isRunnable h)

/-- Whether an engine can be used. One named by its path can if its file is there, whatever it
answers; a bare one if it answers. -/
def status (h : Host) (tool : Tool) : Requirements :=
  if tool.isBare then
    let available := tool.verified
    let place := if available then which h tool.command else none
    let path := if available && place.isNone then some tool.command else place
    ⟨available, path, available⟩
  else
    let available := h.pathExists (Path.ofString tool.command)
    ⟨available, if available then some tool.command else none, available⟩

/-- Whether the engine that a search finds can be used. -/
def requirements (probe : Probe) (s : Search) : Act Requirements := do
  let tool ← s.resolve probe
  return status (← Act.host) tool

/-- The variable that holds the home directory on a platform. -/
def homeVariable (platform : String) : String :=
  if "win".toList.isPrefixOf platform.toList then "USERPROFILE" else "HOME"

/-- One candidate and whether it is there. -/
def candidateLine (h : Host) (path : Path) : String :=
  s!"  {path}: " ++ if h.pathExists path then "EXISTS" else "not found"

/-- Where an engine is looked for: the home directory, each candidate, and the
place on the search path. -/
def describeLines (h : Host) (s : Search) (paths : List Path) : List String :=
  let variableName := homeVariable s.platform
  [s!"{variableName}: " ++ (h.environment.get? variableName).getD "NOT_FOUND", "Common paths:"] ++
    (if paths = [] then ["  (none for this platform)"] else []) ++
    paths.map (candidateLine h) ++
    ["", match which h s.command with
      | some place => s!"{s.command} found in PATH: {place}"
      | none => s!"{s.command} not found in PATH"]

/-- The report about where an engine is looked for. -/
def describe (s : Search) : Act String := do
  let paths ← s.candidatePaths
  return "\n".intercalate (s.describeLines (← Act.host) paths)

end Search

end TexBuild
