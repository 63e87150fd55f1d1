import TexBuild.Volume.Walk

namespace TexBuild.Volume

/-- A directory in which names may be added and removed. -/
def changeable (v : Volume) (loc : Loc) : Except Errno Unit :=
  match v.get? loc with
  | some (.directory mode) =>
    if mayWrite mode && mayEnter mode then .ok () else .error .accessDenied
  | some _ => .error .notDirectory
  | none => .error .noEntry

/-- The permission bits that a new file does not get. -/
def maskedMode (mode : Nat) : Nat :=
  mode - (mode &&& 0o022)

/-- A spelling without slashes at its end; the root keeps one. -/
def dropSlashes (path : String) : String :=
  match path.toList.reverse.dropWhile (· == '/') with
  | [] => if path = "" then "" else "/"
  | cs => String.ofList cs.reverse

/-- The free name that a spelling leads to, in a directory that may be changed. -/
def freeName (v : Volume) (cwd : Loc) (path : String) : Except Errno Loc := do
  match ← v.locate cwd false path with
  | .there _ _ => throw .exists
  | .vacant directory name => do
    v.changeable directory
    return name :: directory

/-- Makes a directory. -/
def makeDirectory (v : Volume) (cwd : Loc) (path : String) : Except Errno Volume := do
  let loc ← v.freeName cwd (dropSlashes path)
  return v.put loc (.directory (maskedMode 0o777))

/-- Makes a link with the given target, which need not exist. -/
def makeLink (v : Volume) (cwd : Loc) (target path : String) : Except Errno Volume := do
  if target = "" then throw .noEntry
  let loc ← v.freeName cwd path
  return v.put loc (.link target)

/-- Makes a pipe. -/
def makePipe (v : Volume) (cwd : Loc) (path : String) : Except Errno Volume := do
  let loc ← v.freeName cwd path
  return v.put loc (.pipe (maskedMode 0o666))

/-- Gives a regular file a second name. -/
def shareFile (v : Volume) (cwd : Loc) (source path : String) : Except Errno Volume := do
  let (_, e) ← v.findLink cwd source
  match e with
  | .directory _ => throw .accessDenied
  | e => do
    let loc ← v.freeName cwd path
    return v.put loc e

/-- Removes what is no directory; a link is removed, not followed. -/
def unlink (v : Volume) (cwd : Loc) (path : String) : Except Errno Volume := do
  let (loc, e) ← v.findLink cwd path
  match e with
  | .directory _ => throw .isDirectory
  | _ => do
    v.changeable loc.tail
    return v.erase loc

/-- Removes an empty directory. -/
def removeDirectory (v : Volume) (cwd : Loc) (path : String) : Except Errno Volume := do
  let (loc, e) ← v.findLink cwd path
  match e with
  | .directory _ => do
    v.changeable loc.tail
    if v.namesIn loc ≠ [] then throw .notEmpty
    return v.erase loc
  | _ => throw .notDirectory

/-- Sets permission bits. -/
def setMode (v : Volume) (cwd : Loc) (path : String) (mode : Nat) : Except Errno Volume := do
  let (loc, e) ← v.find cwd path
  match e with
  | .directory _ => return if loc = [] then v else v.put loc (.directory mode)
  | .file id =>
    match v.data? id with
    | some d => return v.putData id { d with mode := mode }
    | none => throw .noEntry
  | .pipe _ => return v.put loc (.pipe mode)
  | .sink id => return v.setDevice id mode
  | .link _ => return v

/-- The octets of a file. -/
def read (v : Volume) (cwd : Loc) (path : String) : Except Errno (List UInt8) := do
  let (_, e) ← v.find cwd path
  match e with
  | .directory _ => throw .isDirectory
  | .file id =>
    match v.data? id with
    | some d => if mayRead d.mode then return d.bytes else throw .accessDenied
    | none => throw .noEntry
  | .sink id => if mayRead (v.deviceMode id) then return [] else throw .accessDenied
  | .pipe _ | .link _ => return []

/-- Writes a file, new or not: its octets become those that `change` makes of the
old ones. What is written to a device is gone. -/
def write (v : Volume) (cwd : Loc) (path : String) (change : List UInt8 → List UInt8) :
    Except Errno Volume := do
  match ← v.locate cwd true path with
  | .vacant directory name => do
    v.changeable directory
    return v.putFile (name :: directory) ⟨change [], maskedMode 0o666⟩
  | .there _ (.file id) =>
    match v.data? id with
    | some d =>
      if mayWrite d.mode then return v.putData id { d with bytes := change d.bytes }
      else throw .accessDenied
    | none => throw .noEntry
  | .there _ (.directory _) => throw .isDirectory
  | .there _ (.sink id) => if mayWrite (v.deviceMode id) then return v else throw .accessDenied
  | .there _ _ => return v

/-- Every place at or below `source` moves to the same place at or below
`target`. -/
def moveTree (v : Volume) (source target : Loc) : Volume :=
  { v with entries := v.entries.map fun (loc, e) =>
      if source.isSuffixOf loc then
        (loc.take (loc.length - source.length) ++ target, e)
      else (loc, e) }

/-- Renames an entry; what stood at the new name, if it may be replaced, is
gone. -/
def rename (v : Volume) (cwd : Loc) (source path : String) : Except Errno Volume := do
  let (loc, e) ← v.findLink cwd source
  v.changeable loc.tail
  match ← v.locate cwd false path with
  | .vacant directory name => do
    v.changeable directory
    if loc.isSuffixOf directory then throw .invalid
    return v.moveTree loc (name :: directory)
  | .there other old => do
    v.changeable other.tail
    if other = loc then return v
    match e, old with
    | .directory _, .directory _ =>
      if v.namesIn other ≠ [] then throw .notEmpty
      return (v.erase other).moveTree loc other
    | .directory _, _ => throw .notDirectory
    | _, .directory _ => throw .isDirectory
    | _, _ => return (v.erase other).moveTree loc other

/-- Nothing is left at a place or below it. -/
def removeTree (v : Volume) (loc : Loc) : Volume :=
  { v with entries := v.entries.filter fun e => !loc.isSuffixOf e.1 }

/-- The spelling leads, through links, to a directory; where the system does not
answer, it does not. -/
def isDirectory (v : Volume) (cwd : Loc) (path : String) : Bool :=
  match v.find cwd path with
  | .ok (_, .directory _) => true
  | _ => false

/-- A refusal that only says that there is nothing at a path. -/
def isAbsence : Errno → Bool
  | .noEntry | .notDirectory | .badDescriptor | .linkLoop => true
  | _ => false

/-- The spelling leads, through links, to a regular file. Refusals that mean
absence are an answer; others are passed on. -/
def isRegular (v : Volume) (cwd : Loc) (path : String) : Except Errno Bool :=
  match v.find cwd path with
  | .ok (_, .file _) => .ok true
  | .ok _ => .ok false
  | .error e => if isAbsence e then .ok false else .error e

/-- Why directories were not made: something was refused, or more of them are missing than there is
room for. -/
inductive MakeStop where
  | refused (cause : SystemError)
  | tooDeep
deriving DecidableEq

/-- Makes a directory and those above it that are missing, if they are no more than there is room
for; one that is there already will do. The directories made before a refusal stay. -/
def makeDirectories (v : Volume) (cwd : Loc) (room : Nat) (p : Path) :
    Volume × Except MakeStop Unit :=
  match v.makeDirectory cwd p.text with
  | .ok v' => (v', .ok ())
  | .error .noEntry =>
    if p.names = [] then (v, .error (.refused (.about .noEntry p.text)))
    else
      match room with
      | 0 => (v, .error .tooDeep)
      | room + 1 =>
        match makeDirectories v cwd room p.parent with
        | (v', .error e) => (v', .error e)
        | (v', .ok _) =>
          match v'.makeDirectory cwd p.text with
          | .ok v'' => (v'', .ok ())
          | .error e =>
            if v'.isDirectory cwd p.text && e != .noEntry then (v', .ok ())
            else (v', .error (.refused (.about e p.text)))
  | .error e =>
    if v.isDirectory cwd p.text then (v, .ok ()) else (v, .error (.refused (.about e p.text)))

/-- Something is at the spelling, and the system answers. -/
def isThere (v : Volume) (cwd : Loc) (path : String) : Bool :=
  match v.find cwd path with
  | .ok _ => true
  | .error _ => false

/-- Makes the directory of an absolute path after all above it that are not there, the
highest first; one that is there already will do. -/
def fillDirectories (v : Volume) (p : Path) : Volume × Except SystemError Unit :=
  let make (v : Volume) : Volume × Except SystemError Unit :=
    match v.makeDirectory [] p.text with
    | .ok v' => (v', .ok ())
    | .error e => (v, if v.isDirectory [] p.text then .ok () else .error (.about e p.text))
  if _ : p.names = [] then make v
  else if v.isThere [] p.parent.text then make v
  else
    match fillDirectories v p.parent with
    | (v', .error e) => if e.isExistence then make v' else (v', .error e)
    | (v', .ok _) => make v'
termination_by p.names.length
decreasing_by
  have nonempty : 0 < p.names.length := List.length_pos_iff.mpr ‹_›
  simp only [Path.parent, List.length_dropLast]
  omega

end TexBuild.Volume
