import TexBuild.Volume.Basic
import TexBuild.Volume.Errno

namespace TexBuild

/-- One step on a volume: down to a name, up, or to stay, which only checks that
there is a directory. -/
inductive Step where
  | down (n : Name)
  | up
  | stay
deriving DecidableEq

/-- A path as the system follows it: every dot counts. -/
structure Route where
  fromRoot : Bool
  steps : List Step

namespace Route

/-- The step for one piece of a spelling between slashes. -/
def step? (cs : List Char) : Option Step :=
  if cs = ['.'] then some .stay
  else if cs = ['.', '.'] then some .up
  else (Name.ofChars? cs).map .down

/-- The route that a spelling denotes. A slash at the end asks for a directory. -/
def ofString (s : String) : Route :=
  let cs := s.toList
  let steps := (Text.pieces '/' cs).filterMap step?
  { fromRoot := cs.head? = some '/'
    steps := if cs.getLast? = some '/' then steps ++ [.stay] else steps }

/-- Where a route starts. -/
def origin (r : Route) (cwd : Loc) : Loc :=
  if r.fromRoot then [] else cwd

end Route

/-- Where a route leads: to something, or to a free name in a directory. -/
inductive Spot where
  | there (loc : Loc) (entry : Entry)
  | vacant (directory : Loc) (name : Name)
deriving DecidableEq

namespace Volume

/-- The most links that one route may pass. -/
def linkBudget : Nat := 40

/-- The most octets of one name. -/
def nameLimit : Nat := 255

/-- The most octets of a whole spelling. -/
def pathLimit : Nat := 4095

/-- A place that can be passed through: a directory that may be entered. -/
def passable (v : Volume) (loc : Loc) : Except Errno Unit :=
  match v.get? loc with
  | none => .error .noEntry
  | some (.directory mode) => if mayEnter mode then .ok () else .error .accessDenied
  | some _ => .error .notDirectory

/-- Follows the steps from a place. A link on the way is handed, with the place
it stands in and the steps after it, to `expand`; one at the end is followed only
if `follow` says so. -/
def walkWith (v : Volume) (follow : Bool)
    (expand : Loc → String → List Step → Except Errno Spot) :
    Loc → List Step → Except Errno Spot
  | loc, [] =>
    match v.get? loc with
    | some e => .ok (.there loc e)
    | none => .error .noEntry
  | loc, .stay :: rest => do
    v.passable loc
    walkWith v follow expand loc rest
  | loc, .up :: rest => do
    v.passable loc
    walkWith v follow expand loc.tail rest
  | loc, .down n :: rest => do
    v.passable loc
    if nameLimit < n.octets then throw .nameTooLong
    match v.get? (n :: loc) with
    | none => if rest = [] then return .vacant loc n else throw .noEntry
    | some (.link target) =>
      if rest = [] ∧ !follow then return .there (n :: loc) (.link target)
      else expand loc target rest
    | some _ => walkWith v follow expand (n :: loc) rest

/-- Follows the steps from a place through at most the given number of links. -/
def walk (v : Volume) (follow : Bool) : Nat → Loc → List Step → Except Errno Spot
  | 0 => walkWith v follow fun _ _ _ => .error .linkLoop
  | budget + 1 => walkWith v follow fun loc target rest =>
    let route := Route.ofString target
    walk v follow budget (route.origin loc) (route.steps ++ rest)

/-- Where a spelling leads from a directory. -/
def locate (v : Volume) (cwd : Loc) (follow : Bool) (path : String) : Except Errno Spot :=
  if path = "" then .error .noEntry
  else if pathLimit < Text.octets path.toList then .error .nameTooLong
  else
    let route := Route.ofString path
    v.walk follow linkBudget (route.origin cwd) route.steps

/-- What a spelling leads to, links followed. -/
def find (v : Volume) (cwd : Loc) (path : String) : Except Errno (Loc × Entry) := do
  match ← v.locate cwd true path with
  | .there loc e => return (loc, e)
  | .vacant _ _ => throw .noEntry

/-- What a spelling leads to, a link at its end not followed. -/
def findLink (v : Volume) (cwd : Loc) (path : String) : Except Errno (Loc × Entry) := do
  match ← v.locate cwd false path with
  | .there loc e => return (loc, e)
  | .vacant _ _ => throw .noEntry

end Volume

end TexBuild
