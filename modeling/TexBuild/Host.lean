import TexBuild.Environment
import TexBuild.Volume.Canonical
import TexBuild.Volume.Copy

namespace TexBuild

/-- The users that a system knows: the home directory of the one at hand, if that one is known, and
those of users by their names. -/
structure Accounts where
  own : Option String
  homes : List (String × String)
deriving DecidableEq

/-- The room on the stack of a program for what calls itself: how many directories can be made for
the sake of another one, how many links can be opened within one another, and which texts can be read
for references, however deep these lie. There is room for all links that a system passes on one path. -/
structure Stack where
  directories : Nat
  links : Nat
  reads : String → Bool
  enough : Volume.linkBudget ≤ links

/-- The room that is left where a build begins. -/
def Stack.usual : Stack :=
  ⟨992, 994, fun _ => true, by decide⟩

/-- What a program finds around it: a volume and what comes in the way of copies on it, the
directory at hand, the variables, the users and the room on its stack. -/
structure Host where
  volume : Volume
  medium : Volume.Medium
  cwd : Loc
  environment : Environment
  accounts : Accounts
  stack : Stack

namespace Host

/-- A spelling without the slashes at its end. -/
def withoutSlashes (s : String) : String :=
  String.ofList ((s.toList.reverse.dropWhile (· == '/')).reverse)

/-- The spelling of the home directory of the user at hand. -/
def ownHome (h : Host) : Option String :=
  ((h.environment.get? "HOME").or h.accounts.own).map withoutSlashes

/-- The spelling of the home directory of the user with a name, or of the user at hand if there is
none. A name that the system does not take cannot be looked up. -/
def homeText (h : Host) (name : List Char) : Except Fault (Option String) :=
  if name = [] then .ok h.ownHome
  else if Text.isFit name then
    .ok ((h.accounts.homes.lookup (String.ofList name)).map withoutSlashes)
  else .error (.unfit (String.ofList name))

/-- The home directory with a spelling. One that is itself spelled with a tilde is not known. -/
def homePath : Option String → Except Fault Path
  | none => .error .unknownHome
  | some text =>
    if text.toList.head? = some '~' then .error .unknownHome
    else .ok (Path.ofString (if text = "" then "/" else text))

/-- The name of a user behind a tilde at the beginning of a path. -/
def account? (p : Path) : Option (List Char) :=
  match p.anchor, p.names.map Name.chars with
  | .here, ('~' :: name) :: _ => some name
  | _, _ => none

/-- The path with a tilde at its beginning, and a name behind it, read as a home directory. -/
def expandUser (h : Host) (p : Path) : Except Fault Path :=
  match account? p with
  | none => .ok p
  | some name => do
    let base ← homePath (← h.homeText name)
    return { base with names := base.names ++ p.names.tail }

/-- The home directory. -/
def home (h : Host) : Except Fault Path :=
  h.expandUser (Path.ofString "~")

/-- The absolute path without links and dots that denotes the same as `p`, a tilde taken as a name. -/
def canonical (h : Host) (p : Path) : Except Fault Path :=
  h.volume.canonical h.cwd h.stack.links p

/-- The absolute path without links and dots that denotes the same as `p`. -/
def resolve (h : Host) (p : Path) : Except Fault Path := do
  h.canonical (← h.expandUser p)

/-- Makes a directory and those above it that are missing. -/
def makeDirectories (h : Host) (p : Path) : Volume × Except Volume.MakeStop Unit :=
  h.volume.makeDirectories h.cwd h.stack.directories p

/-- The spelling of the directory at hand, if it is still there. -/
def workingDirectory (h : Host) : Except Fault Path :=
  match h.volume.get? h.cwd with
  | some _ => .ok (Volume.spell h.cwd)
  | none => .error (.system (.ofErrno .noEntry))

/-- The path leads to a regular file. A path that the system cannot even read
leads nowhere. -/
def isFile (h : Host) (p : Path) : Except SystemError Bool :=
  if Volume.isClean p then
    (h.volume.isRegular h.cwd p.text).mapError fun e => .about e p.text
  else .ok false

/-- The path leads to a regular file as far as the system tells. -/
def pathExists (h : Host) (p : Path) : Bool :=
  match h.isFile p with
  | .ok found => found
  | .error _ => false

end Host

end TexBuild
