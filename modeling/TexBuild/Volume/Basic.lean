import TexBuild.Lookup
import TexBuild.Path.Basic

namespace TexBuild

/-- A place on a volume: the names from the innermost out to the root, which is
the empty place. The directory of a place is its tail. -/
abbrev Loc := List Name

/-- What a regular file holds: its octets and its permission bits. -/
structure FileData where
  bytes : List UInt8
  mode : Nat
deriving DecidableEq

/-- What stands at a place. A regular file is named by its number, so that two
places can share one file, and so is a device, which takes octets and keeps none. -/
inductive Entry where
  | directory (mode : Nat)
  | file (id : Nat)
  | link (target : String)
  | pipe (mode : Nat)
  | sink (id : Nat)
deriving DecidableEq

/-- The content of a file system: what stands at each place, the content of each
regular file by its number, the least number that is still free, and the permission bits of
those devices that have not the usual ones. -/
structure Volume where
  entries : List (Loc × Entry)
  files : List (Nat × FileData)
  next : Nat
  devices : List (Nat × Nat) := []
deriving DecidableEq

namespace Volume

/-- The permission bits of the root. -/
def rootMode : Nat := 0o755

/-- What stands at a place; the root is always there. -/
def get? (v : Volume) : Loc → Option Entry
  | [] => some (.directory rootMode)
  | loc => v.entries.lookup loc

/-- The content of the regular file with a number. -/
def data? (v : Volume) (id : Nat) : Option FileData :=
  v.files.lookup id

/-- The permission bits of the device with a number. -/
def deviceMode (v : Volume) (id : Nat) : Nat :=
  (v.devices.lookup id).getD 0o666

/-- The content of a regular file, or of a device, which has its permission bits only. -/
def contentOf (v : Volume) : Entry → Option FileData
  | .file id => v.data? id
  | .sink id => some ⟨[], v.deviceMode id⟩
  | _ => none

/-- The content of the file at a place; a link is not followed. -/
def fileAt? (v : Volume) (loc : Loc) : Option FileData :=
  (v.get? loc).bind v.contentOf

/-- The volume with an entry at a place, whatever stood there. -/
def put (v : Volume) (loc : Loc) (e : Entry) : Volume :=
  { v with entries := insertKey loc e v.entries }

/-- The volume with nothing at a place. A regular file that no place names any
more keeps its number, so that the numbers of the others do not depend on it. -/
def erase (v : Volume) (loc : Loc) : Volume :=
  { v with entries := eraseKey loc v.entries }

/-- The volume with other content in a regular file. -/
def putData (v : Volume) (id : Nat) (d : FileData) : Volume :=
  { v with files := insertKey id d v.files }

/-- The volume with a new regular file at a place. -/
def putFile (v : Volume) (loc : Loc) (d : FileData) : Volume :=
  { v with
    entries := insertKey loc (.file v.next) v.entries
    files := insertKey v.next d v.files
    next := v.next + 1 }

/-- The volume with other permission bits on a device. -/
def setDevice (v : Volume) (id mode : Nat) : Volume :=
  { v with devices := insertKey id mode v.devices }

theorem get?_put_self (v : Volume) {loc : Loc} (e : Entry) (h : loc ≠ []) :
    (v.put loc e).get? loc = some e := by
  cases loc with
  | nil => exact absurd rfl h
  | cons n rest => simp [put, get?]

theorem get?_put_of_ne (v : Volume) {loc other : Loc} (e : Entry) (h : other ≠ loc) :
    (v.put loc e).get? other = v.get? other := by
  cases other with
  | nil => rfl
  | cons n rest => simp [put, get?, lookup_insertKey_of_ne h]

theorem get?_erase_self (v : Volume) {loc : Loc} (h : loc ≠ []) :
    (v.erase loc).get? loc = none := by
  cases loc with
  | nil => exact absurd rfl h
  | cons n rest => simp [erase, get?]

theorem get?_erase_of_ne (v : Volume) {loc other : Loc} (h : other ≠ loc) :
    (v.erase loc).get? other = v.get? other := by
  cases other with
  | nil => rfl
  | cons n rest => simp [erase, get?, lookup_eraseKey_of_ne h]

@[simp] theorem data?_put (v : Volume) (loc : Loc) (e : Entry) (id : Nat) :
    (v.put loc e).data? id = v.data? id := rfl

@[simp] theorem data?_erase (v : Volume) (loc : Loc) (id : Nat) :
    (v.erase loc).data? id = v.data? id := rfl

@[simp] theorem get?_putData (v : Volume) (id : Nat) (d : FileData) (loc : Loc) :
    (v.putData id d).get? loc = v.get? loc := by
  cases loc <;> rfl

@[simp] theorem data?_putData_self (v : Volume) (id : Nat) (d : FileData) :
    (v.putData id d).data? id = some d := by
  simp [putData, data?]

@[simp] theorem putData_putData (v : Volume) (id : Nat) (d d' : FileData) :
    (v.putData id d).putData id d' = v.putData id d' := by
  simp [putData]

@[simp] theorem putData_putFile (v : Volume) (loc : Loc) (d d' : FileData) :
    (v.putFile loc d).putData v.next d' = v.putFile loc d' := by
  simp [putData, putFile]

theorem data?_putData_of_ne (v : Volume) {id other : Nat} (d : FileData) (h : other ≠ id) :
    (v.putData id d).data? other = v.data? other := by
  simp [putData, data?, lookup_insertKey_of_ne h]

/-- The owner may read. -/
def mayRead (mode : Nat) : Bool :=
  mode.testBit 8

/-- The owner may write. -/
def mayWrite (mode : Nat) : Bool :=
  mode.testBit 7

/-- The owner may run a file, or pass through a directory. -/
def mayEnter (mode : Nat) : Bool :=
  mode.testBit 6

/-- The permission bits of an entry; a link has none of its own. -/
def modeOf (v : Volume) : Entry → Nat
  | .directory mode => mode
  | .file id => match v.data? id with
    | some d => d.mode
    | none => 0
  | .link _ => 0o777
  | .pipe mode => mode
  | .sink id => v.deviceMode id

/-- The names in a directory. -/
def namesIn (v : Volume) (loc : Loc) : List Name :=
  v.entries.filterMap fun e =>
    match e.1 with
    | n :: rest => if rest = loc then some n else none
    | [] => none

/-- The spelling of a place from the root. -/
def spell (loc : Loc) : Path :=
  ⟨.root, loc.reverse⟩

end Volume

end TexBuild
