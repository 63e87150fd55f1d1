import TexBuild.Build.Launch
import TexBuild.Session
import TexBuild.Table.Locations
import TexBuild.Tool.Basic

namespace TexBuild

/-- A search for an engine: its command, the install paths to try after the search
path or else those of the packaged table, and the platform that selects them. -/
structure Search where
  command : String
  candidates : Option (List Path)
  platform : String

/-- A way to find out whether a command answers when it is asked for its
version. -/
abbrev Probe := String → Act Bool

namespace Search

/-- The search for a command; an empty one stands for the usual engine. -/
def forCommand (command : String) (candidates : Option (List Path)) (platform : String) : Search :=
  ⟨if command = "" then fallbackEngine else command, candidates, platform⟩

/-- Where the home directory is when no one knows. -/
def homelessPath (platform : String) : Path :=
  Path.ofString (if "win".toList.isPrefixOf platform.toList then "C:/Users/Default" else "/")

/-- The home directory for the table. -/
def homeFor (h : Host) (platform : String) : Path :=
  match h.home with
  | .ok home => home
  | .error _ => homelessPath platform

/-- Reads a name of the table for references, if there is room on the stack for that. -/
def checkName (h : Host) (name : String) : Except Fault Unit :=
  if Table.hasReference name.toList ∧ !h.stack.reads name then .error .stackOverflow
  else (Table.Word.checkValue (.text name)).mapError .table

/-- The install paths of the packaged table. -/
def tablePaths (h : Host) (command platform : String) : Except Fault (List Path) := do
  let home := homeFor h platform
  let table ← (Table.packagedTable h.environment).mapError .table
  checkName h home.text
  checkName h command
  (Table.knownLocations h.environment table command platform home).mapError .table

/-- The faults of a table that leave a search without candidates: those of its references
and of what may stand in it. Others end the search. -/
def isTableRefusal : Fault → Bool
  | .table cause =>
    match cause with
    | .badReference | .unknownReference | .missingValue | .unknownResolver | .unresolved
    | .unfitKey | .unfitValue | .notATable _ | .unreadable _ => true
    | _ => false
  | _ => false

/-- What is reported about a table that gives no candidates. -/
def tableNotice : Notice :=
  Notice.build .warning "Could not load install locations"

/-- The install paths that are tried when the bare command does not answer. -/
def candidatePaths (s : Search) : Act (List Path) := do
  match s.candidates with
  | some paths => return paths
  | none =>
    match tablePaths (← Act.host) s.command s.platform with
    | .ok paths => return paths
    | .error fault =>
      if isTableRefusal fault then do
        Act.tell tableNotice
        return []
      else throw fault

/-- The absolute form of a command that is a path, so that it names the same file
from another directory. A home or link that leads nowhere leaves the spelling as
it is, below the directory at hand. -/
def absoluteCommand (h : Host) (command : String) : Except Fault String :=
  let path := Path.ofString command
  match h.resolve path with
  | .ok p => .ok p.text
  | .error fault =>
    if fault.isRefusal then do
      return ((← h.workingDirectory).join path).text
    else .error fault

/-- The first of some paths at which there is a regular file. -/
def firstInstalled (h : Host) (paths : List Path) : Option Path :=
  paths.find? h.pathExists

/-- Asks a command for its version, and notes that it was asked. -/
def ask (probe : Probe) (command : String) : Act Bool := do
  Act.noteAsked command
  probe command

/-- Picks the engine: a command that is a path stands for its file; any other is
taken as it is if it answers, then the first candidate at which there is a file,
then the command all the same, so that its absence shows when it is run. -/
def resolve (probe : Probe) (s : Search) : Act Tool := do
  if isPathLike s.command then
    let command ← Act.ask fun h => absoluteCommand h s.command
    let verified ← if (← Act.host).pathExists (Path.ofString command) then ask probe command
      else pure false
    return ⟨command, false, verified⟩
  else if ← ask probe s.command then
    Act.tell (Notice.build .debug s!"{s.command} found on PATH")
    return ⟨s.command, true, true⟩
  else
    let paths ← s.candidatePaths
    match firstInstalled (← Act.host) paths with
    | some path =>
      let verified ← ask probe path.text
      let answer := if verified then "True" else "False"
      Act.tell (Notice.build .debug s!"{s.command} found at {path} (verified={answer})")
      return ⟨path.text, false, verified⟩
    | none =>
      Act.tell (Notice.build .debug s!"{s.command} not found; falling back to bare command")
      return ⟨s.command, true, false⟩

end Search

end TexBuild
