import TexBuild.Volume.Change

namespace TexBuild.Volume

/-- Why a file was not copied: it lies at the destination already, or something
was refused. -/
inductive CopyStop where
  | sameFile
  | refused (cause : SystemError)
deriving DecidableEq

/-- What comes in the way of a copy to a spelling once the file there is open: an error that ends the
writing of some octets after a number of them, and a refusal to give the file its times and
permission bits. -/
structure Medium where
  breaks : String → List UInt8 → Option (Nat × SystemError)
  refuses : String → Option SystemError

namespace Medium

/-- Nothing comes in the way. -/
def calm : Medium :=
  ⟨fun _ _ => none, fun _ => none⟩

/-- The octets that are written before anything comes in the way. -/
def carried (m : Medium) (target : String) (bytes : List UInt8) : List UInt8 :=
  match m.breaks target bytes with
  | some (count, _) => bytes.take count
  | none => bytes

/-- What comes in the way. -/
def stop? (m : Medium) (target : String) (bytes : List UInt8) : Option SystemError :=
  match m.breaks target bytes with
  | some (_, cause) => some cause
  | none => m.refuses target

end Medium

/-- The last piece of a spelling. -/
def lastPiece (path : String) : List Char :=
  ((Text.pieces '/' path.toList).getLast?).getD []

/-- The spelling of a name in a directory. -/
def within (directory : String) (name : List Char) : String :=
  match directory.toList.getLast? with
  | none | some '/' => directory ++ String.ofList name
  | some _ => directory ++ "/" ++ String.ofList name

/-- Two spellings lead to one file: the same place, or two names of one regular
file. -/
def isSameFile (v : Volume) (cwd : Loc) (a b : String) : Bool :=
  match v.find cwd a, v.find cwd b with
  | .ok (_, .file i), .ok (_, .file j) => i == j
  | .ok (x, _), .ok (y, _) => x == y
  | _, _ => false

/-- The spelling leads to a pipe, which is not opened. -/
def isPipe (v : Volume) (cwd : Loc) (path : String) : Bool :=
  match v.find cwd path with
  | .ok (_, .pipe _) => true
  | _ => false

/-- Where a copy of `source` goes: into the destination if that is a directory,
otherwise to the destination itself. -/
def copyTarget (v : Volume) (cwd : Loc) (source destination : String) : String :=
  if v.isDirectory cwd destination then within destination (lastPiece source) else destination

/-- Copies the octets of a file to a target as far as they come through. Nothing has changed
where the target is not opened. -/
def copyOctets (v : Volume) (m : Medium) (cwd : Loc) (source target : String) :
    Except CopyStop (List UInt8 × Volume) := do
  if v.isSameFile cwd source target then throw .sameFile
  if v.isPipe cwd source then throw (.refused (.pipe source))
  if v.isPipe cwd target then throw (.refused (.pipe target))
  let bytes ← (v.read cwd source).mapError fun e => .refused (.about e source)
  let w ← (v.write cwd target fun _ => m.carried target bytes).mapError fun e =>
    .refused (.about e target)
  return (bytes, w)

/-- Gives a target, which has been filled, the permission bits that a source has. -/
def copyMode (v w : Volume) (cwd : Loc) (source target : String) : Except SystemError Volume := do
  let (_, e) ← (v.find cwd source).mapError (.about · source)
  (w.setMode cwd target (v.modeOf e)).mapError (.about · target)

/-- Copies the octets and the permission bits of a file. What was written before a copy is stopped
stays, under the permission bits that the target has. -/
def copyFile (v : Volume) (m : Medium) (cwd : Loc) (source destination : String) :
    Volume × Except CopyStop Unit :=
  let target := v.copyTarget cwd source destination
  match v.copyOctets m cwd source target with
  | .error stop => (v, .error stop)
  | .ok (bytes, w) =>
    match m.stop? target bytes with
    | some cause => (w, .error (.refused cause))
    | none =>
      match v.copyMode w cwd source target with
      | .ok v' => (v', .ok ())
      | .error cause => (w, .error (.refused cause))

end TexBuild.Volume
