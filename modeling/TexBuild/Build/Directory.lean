import TexBuild.Host

namespace TexBuild

/-- The name of the program, under which it keeps what it may throw away. -/
def programName : String := "ResumeIDE"

namespace Host

/-- A spelling with a name below it; a slash at the end is not doubled. -/
def below (directory name : String) : String :=
  Volume.within directory name.toList

/-- The spelling of a path below the home directory, the home taken as the
variable has it; one that is not known leaves the tilde. -/
def belowHome (h : Host) (rest : String) : String :=
  h.ownHome.getD "~" ++ "/" ++ rest

/-- A directory of the user for one purpose: the one that a variable names, if it
is absolute, otherwise the usual one below the home directory. -/
def userDirectory (h : Host) (variableName usual : String) : String :=
  let given := String.ofList (Text.trim ((h.environment.get? variableName).getD "").toList)
  below (if given.toList.head? = some '/' then given else h.belowHome usual) programName

/-- The directories in which the program may keep things, the best first: that for
what can be made again, then that for data. -/
def userRoots (h : Host) : List String :=
  [h.userDirectory "XDG_CACHE_HOME" ".cache", h.userDirectory "XDG_DATA_HOME" ".local/share"]

/-- One more name at the end of a path; two dots take the last name away, but not
beyond the root. -/
def lexicalStep (p : Path) (n : Name) : Path :=
  if n = Name.up then p.parent else p.child n

/-- The absolute path that a spelling denotes when dots are taken by themselves,
without a look at the volume. -/
def lexicalPath (h : Host) (p : Path) : Path :=
  let whole := (Volume.spell h.cwd).join p
  whole.names.foldl lexicalStep { whole with names := [] }

/-- Files can be made in a directory. -/
def isUsable (h : Host) (p : Path) : Bool :=
  match h.volume.find h.cwd p.text with
  | .ok (loc, _) => (h.volume.changeable loc).toBool
  | .error _ => false

/-- The directories for passing files, in the order in which they are tried: those
that variables name, the usual ones, and the one at hand. -/
def temporaryCandidates (h : Host) : List Path :=
  (["TMPDIR", "TEMP", "TMP"].filterMap fun variableName =>
    match h.environment.get? variableName with
    | some text => if text = "" then none else some (h.lexicalPath (Path.ofString text))
    | none => none) ++
    ["/tmp", "/var/tmp", "/usr/tmp"].map Path.ofString ++ [Volume.spell h.cwd]

/-- What is said when there is no directory for passing files. -/
def noTemporary (candidates : List Path) : SystemError :=
  .numbered Errno.noEntry.code
    ("No usable temporary directory found in [" ++
      ", ".intercalate (candidates.map fun p => quoted p.text) ++ "]") none

/-- The directory for passing files. -/
def temporaryDirectory (h : Host) : Except Fault Path :=
  match h.temporaryCandidates.find? h.isUsable with
  | some p => .ok p
  | none => .error (.system (noTemporary h.temporaryCandidates))

/-- Where builds are made below the first of some roots that is absolute, or else
below the directory for passing files. -/
def buildDirectoryBelow (h : Host) (roots : List String) : Except Fault Path :=
  match roots.find? fun root => root.toList.head? = some '/' with
  | some root => .ok ((Path.ofString root).join (Path.ofString "build"))
  | none => do
    return (← h.temporaryDirectory).join (Path.ofString (programName ++ "/build"))

/-- Where builds are made when nothing else is said: where a variable says, or else
below the directories of the user. -/
def defaultBuildDirectory (h : Host) (roots : List String) : Except Fault Path :=
  match h.environment.get? "BUILD_DIR" with
  | some text =>
    if text = "" then h.buildDirectoryBelow roots else h.resolve (Path.ofString text)
  | none => h.buildDirectoryBelow roots

/-- Where a build is made: where it is told to, or else in the default place. -/
def buildDirectory (h : Host) (given : Option Path) : Except Fault Path :=
  match given with
  | some p => h.resolve p
  | none => h.defaultBuildDirectory h.userRoots

end Host

end TexBuild
