import TexBuild.Fault
import TexBuild.Volume.Walk

namespace TexBuild.Volume

/-- Where the following of links stands, by its spelling: so many steps up from the directory at
hand, or at the root, and from there down by names. A link is recognised by this spelling, so that
one place under two spellings counts as two. -/
structure Standpoint where
  climbed : Option Nat
  below : Loc
deriving DecidableEq

namespace Standpoint

/-- The root. -/
def root : Standpoint :=
  ⟨none, []⟩

/-- The directory at hand. -/
def here : Standpoint :=
  ⟨some 0, []⟩

/-- The place where the names begin. -/
def base (cwd : Loc) (p : Standpoint) : Loc :=
  match p.climbed with
  | some k => cwd.drop k
  | none => []

/-- The place itself. -/
def loc (cwd : Loc) (p : Standpoint) : Loc :=
  p.below ++ p.base cwd

/-- One step up. Two dots are spelled where there is no name to take back. -/
def up (p : Standpoint) : Standpoint :=
  match p.below with
  | _ :: below => { p with below }
  | [] => { p with climbed := p.climbed.map (· + 1) }

/-- One step down. -/
def down (p : Standpoint) (n : Name) : Standpoint :=
  { p with below := n :: p.below }

/-- Where a route starts. -/
def origin (p : Standpoint) (r : Route) : Standpoint :=
  if r.fromRoot then root else p

/-- The directories on a way down by names, without the one at its end. -/
def descent (base : Loc) : Loc → List Loc
  | [] => []
  | _ :: below => (below ++ base) :: descent base below

/-- The directories that the spelling passes before it comes to the place. -/
def way (cwd : Loc) (p : Standpoint) : List Loc :=
  descent (p.base cwd) p.below ++ match p.climbed with
    | some k => (List.range k).map cwd.drop
    | none => []

end Standpoint

/-- The links met so far, each with where it leads to, if that is known. -/
abbrev Links := List (Standpoint × Option Standpoint)

/-- Why links are not followed any further: one of them leads round in a circle, and the rest of the
path is kept as it is spelled, or too many of them lie within one another. -/
inductive Halt where
  | circle (path : Path)
  | deep

/-- The target of the link with a name, where all directories that the spelling passes can be
entered. -/
def readLink (v : Volume) (cwd : Loc) (p : Standpoint) (n : Name) : Option String :=
  if (p.loc cwd :: p.way cwd).all (fun d => (v.passable d).isOk) ∧ n.octets ≤ nameLimit then
    match v.get? (n :: p.loc cwd) with
    | some (.link target) => some target
    | _ => none
  else none

/-- Behind a circle of links the pieces of a spelling that are left are put after a path as a text:
they begin anew where this begins with a slash. -/
def keep (p : Path) (pieces : List (List Char)) : Path :=
  p.join (Path.ofChars (List.intercalate ['/'] pieces))

/-- Follows the pieces of a spelling, those that are links into what they lead to. What is missing
is kept as it is spelled, and two dots after it take it back. A link that is met again leads where it
is known to, or round in a circle while its own target is sought. -/
def followWith (v : Volume) (cwd : Loc)
    (expand : Links → Standpoint → String → Except Halt (Links × Standpoint)) :
    Links → Standpoint → List (List Char) → Except Halt (Links × Standpoint)
  | seen, p, [] => .ok (seen, p)
  | seen, p, piece :: rest =>
    match Route.step? piece with
    | none | some .stay => followWith v cwd expand seen p rest
    | some .up => followWith v cwd expand seen p.up rest
    | some (.down n) =>
      let link := p.down n
      match v.readLink cwd p n with
      | none => followWith v cwd expand seen link rest
      | some target =>
        match seen.lookup link with
        | some (some known) => followWith v cwd expand seen known rest
        | some none => .error (.circle (keep (spell (link.loc cwd)) rest))
        | none =>
          match expand ((link, none) :: seen) p target with
          | .ok (seen, known) => followWith v cwd expand ((link, some known) :: seen) known rest
          | .error (.circle path) => .error (.circle (keep path rest))
          | .error .deep => .error .deep

/-- Follows the pieces of a spelling, where so many spellings may be followed within one another: this
one, and those of the targets of links. -/
def follow (v : Volume) (cwd : Loc) :
    Nat → Links → Standpoint → List (List Char) → Except Halt (Links × Standpoint)
  | 0 => fun _ _ _ => .error .deep
  | room + 1 => followWith v cwd fun seen p target =>
    follow v cwd room seen (p.origin (Route.ofString target)) (Text.pieces '/' target.toList)

/-- The system takes every name of a path. -/
def isClean (p : Path) : Bool :=
  p.names.all fun n => Text.isFit n.chars

/-- A path up to the first name that the system does not take. -/
def fitPart (p : Path) : Path :=
  { p with names := p.names.takeWhile fun n => Text.isFit n.chars }

/-- What is left of a path from the first name on that the system does not take. -/
def unfitPart (p : Path) : List Name :=
  p.names.dropWhile fun n => Text.isFit n.chars

/-- Follows a path from the directory at hand through links, of which so many may lie within one
another. -/
def followPath (v : Volume) (cwd : Loc) (room : Nat) (p : Path) : Except Halt Standpoint :=
  let start := Standpoint.here.origin (Route.ofString p.text)
  (v.follow cwd (room + 1) [] start (Text.pieces '/' p.text.toList)).map Prod.snd

/-- The absolute path without links and dots to which a path leads, whether or not anything is there.
The names are looked up one by one, so that one the system does not take is met only where those
before it come to an end. Behind a circle of links it stays in the path, unless two dots take it back. -/
def target (v : Volume) (cwd : Loc) (room : Nat) (p : Path) : Except Fault Path :=
  match v.followPath cwd room (fitPart p), unfitPart p with
  | .ok s, [] => .ok (spell (s.loc cwd))
  | .ok _, n :: _ => .error (.unfit n.text)
  | .error (.circle path), left =>
    let whole := (path.join ⟨.here, left⟩).flattened
    if left = [] ∨ isClean whole then .ok whole else .error (.unfit whole.text)
  | .error .deep, _ => .error .stackOverflow

/-- The absolute path without links and dots that denotes the same as `p`. It
exists whether or not anything is there, but links may not lead in a circle. -/
def canonical (v : Volume) (cwd : Loc) (room : Nat) (p : Path) : Except Fault Path := do
  let path ← v.target cwd room p
  if p.anchor = .here ∧ v.get? cwd = none then throw (.system (.ofErrno .noEntry))
  match v.find cwd path.text with
  | .error .linkLoop => throw (.linkLoop path.text)
  | _ => return path

end TexBuild.Volume
