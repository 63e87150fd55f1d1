import TexBuild.Proofs.Volume.Walk
import TexBuild.Volume.Copy

namespace TexBuild

/-- Neither a file nor a directory nor a pipe: it takes what is written and keeps nothing of it. -/
def Entry.IsDevice (e : Entry) : Prop :=
  (∀ id, e ≠ .file id) ∧ (∀ mode, e ≠ .directory mode) ∧ ∀ mode, e ≠ .pipe mode

namespace Volume

/-- The octets of the regular file that a spelling leads to. -/
def bytesAt? (v : Volume) (cwd : Loc) (path : String) : Option (List UInt8) :=
  match v.find cwd path with
  | .ok (_, .file id) => (v.data? id).map FileData.bytes
  | _ => none

/-- Nothing but a regular file stands where a spelling leads to. -/
def TakesFile (v : Volume) (cwd : Loc) (path : String) : Prop :=
  ∀ loc e, v.find cwd path = .ok (loc, e) → ∃ id, e = .file id

/-- What is read through a spelling: octets, and the permission bits that go with them. -/
def reading? (v : Volume) (cwd : Loc) (path : String) : Option FileData :=
  match v.read cwd path, v.find cwd path with
  | .ok bytes, .ok (_, e) => some ⟨bytes, v.modeOf e⟩
  | _, _ => none

/-- What a volume becomes when a file is brought to a place: other content in the file that is
there, a new file, or no more than other permission bits if there is a device. -/
inductive Transfer (v : Volume) (cwd : Loc) (target : String) (d : FileData) : Volume → Prop
  | overwritten {loc id} : v.find cwd target = .ok (loc, .file id) →
      Transfer v cwd target d (v.putData id d)
  | created {directory name} : v.locate cwd true target = .ok (.vacant directory name) →
      Transfer v cwd target d (v.putFile (name :: directory) d)
  | swallowed {loc e devices} : v.find cwd target = .ok (loc, e) → e.IsDevice →
      (∀ id, e ≠ .sink id → devices.lookup id = v.devices.lookup id) →
      Transfer v cwd target d { v with devices }

variable {v v' w : Volume} {m : Medium} {cwd loc directory : Loc} {name : Name} {e : Entry}
  {id mode : Nat}
  {d : FileData} {bytes : List UInt8} {source target destination path : String}

theorem write_eq_ok {change : List UInt8 → List UInt8}
    (written : v.write cwd path change = .ok v') :
    (∃ directory name d, v.locate cwd true path = .ok (.vacant directory name) ∧
        v' = v.putFile (name :: directory) d ∧ d.bytes = change []) ∨
      (∃ loc id d, v.find cwd path = .ok (loc, .file id) ∧ v.data? id = some d ∧
        v' = v.putData id ⟨change d.bytes, d.mode⟩) ∨
      ∃ loc e, v.find cwd path = .ok (loc, e) ∧ (∀ id, e ≠ .file id) ∧
        (∀ mode, e ≠ .directory mode) ∧ v' = v := by
  simp only [find_eq_ok_iff]
  obtain ⟨spot, located, written⟩ := bind_eq_ok_iff.mp written
  rw [located]
  cases spot with
  | vacant directory name =>
    obtain ⟨_, -, made⟩ := bind_eq_ok_iff.mp written
    cases made
    exact .inl ⟨directory, name, _, rfl, rfl, rfl⟩
  | there loc e =>
    cases e with
    | file id =>
      refine .inr (.inl ⟨loc, id, ?_⟩)
      dsimp only at written
      cases data : v.data? id with
      | none => rw [data] at written; cases written
      | some d =>
        rw [data] at written
        dsimp only at written
        split at written
        · cases written
          exact ⟨d, rfl, rfl, rfl⟩
        · cases written
    | directory mode => cases written
    | sink id =>
      dsimp only at written
      split at written
      · cases written
        exact .inr (.inr ⟨loc, _, rfl, nofun, nofun, rfl⟩)
      · cases written
    | _ =>
      cases written
      exact .inr (.inr ⟨loc, _, rfl, nofun, nofun, rfl⟩)

/-- Whether a file can be opened does not depend on what is then written. -/
theorem write_eq_error_congr {change change' : List UInt8 → List UInt8} {e : Errno}
    (refused : v.write cwd path change = .error e) : v.write cwd path change' = .error e := by
  unfold write at refused ⊢
  obtain none | ⟨spot, located, refused⟩ := bind_eq_error_iff.mp refused
  · exact bind_eq_error_iff.mpr (.inl none)
  refine bind_eq_error_iff.mpr (.inr ⟨spot, located, ?_⟩)
  cases spot with
  | vacant directory name =>
    obtain locked | ⟨_, _, made⟩ := bind_eq_error_iff.mp refused
    · exact bind_eq_error_iff.mpr (.inl locked)
    · cases made
  | there loc entry =>
    cases entry with
    | file id =>
      dsimp only at refused ⊢
      split at refused
      · split at refused
        · cases refused
        · rwa [if_neg ‹_›]
      · exact refused
    | _ => exact refused

theorem find_of_read (read : v.read cwd path = .ok bytes) :
    ∃ loc e, v.find cwd path = .ok (loc, e) ∧ (∀ mode, e ≠ .directory mode) ∧
      ∀ id, e = .file id → ∃ d, v.data? id = some d ∧ mayRead d.mode = true ∧ d.bytes = bytes := by
  obtain ⟨⟨loc, e⟩, found, read⟩ := bind_eq_ok_iff.mp read
  refine ⟨loc, e, found, ?_, ?_⟩
  · rintro mode rfl
    cases read
  · rintro id rfl
    dsimp only at read
    cases data : v.data? id with
    | none => rw [data] at read; cases read
    | some d =>
      rw [data] at read
      dsimp only at read
      split at read
      · cases read
        exact ⟨d, rfl, ‹_›, rfl⟩
      · cases read

theorem reading?_eq_some_iff :
    v.reading? cwd path = some d ↔
      v.read cwd path = .ok d.bytes ∧
        ∃ loc e, v.find cwd path = .ok (loc, e) ∧ v.modeOf e = d.mode := by
  unfold reading?
  cases read : v.read cwd path with
  | error e => simp
  | ok bytes =>
    obtain ⟨loc, e, found, -⟩ := find_of_read read
    rw [found]
    constructor
    · rintro ⟨⟩
      exact ⟨rfl, loc, e, rfl, rfl⟩
    · rintro ⟨same, loc', e', there, mode⟩
      cases there
      cases same
      dsimp only
      rw [mode]

theorem bytesAt?_of_find (found : v.find cwd path = .ok (loc, .file id))
    (data : v.data? id = some d) : v.bytesAt? cwd path = some d.bytes := by
  rw [bytesAt?, found]
  dsimp only
  rw [data]
  rfl

theorem bytesAt?_of_read (read : v.read cwd path = .ok bytes)
    (found : v.find cwd path = .ok (loc, .file id)) : v.bytesAt? cwd path = some bytes := by
  obtain ⟨loc', e, found', -, held⟩ := find_of_read read
  cases found.symm.trans found'
  obtain ⟨d, data, -, rfl⟩ := held id rfl
  exact bytesAt?_of_find found data

theorem isPipe_iff :
    v.isPipe cwd path = true ↔ ∃ loc mode, v.find cwd path = .ok (loc, .pipe mode) := by
  unfold isPipe
  rcases v.find cwd path with e | ⟨loc, e⟩
  · simp
  · cases e <;> simp

theorem extends_putData (v : Volume) (id : Nat) (d : FileData) : Extends v (v.putData id d) :=
  .of_get?_eq fun loc => get?_putData v id d loc

theorem extends_putFile {d : FileData} (free : v.get? loc = none) :
    Extends v (v.putFile loc d) :=
  Extends.put (e := .file v.next) free nofun fun other => by cases other <;> rfl

theorem extends_devices (v : Volume) (devices : List (Nat × Nat)) : Extends v { v with devices } :=
  .of_get?_eq fun loc => by cases loc <;> rfl

theorem get?_putFile_self {d : FileData} (free : v.get? loc = none) :
    (v.putFile loc d).get? loc = some (.file v.next) := by
  have inside : loc ≠ [] := fun root => by rw [root] at free; cases free
  have placed : (v.putFile loc d).get? loc = (v.put loc (.file v.next)).get? loc := by
    cases loc <;> rfl
  rw [placed, get?_put_self v _ inside]

@[simp] theorem data?_putFile_self (v : Volume) (loc : Loc) (d : FileData) :
    (v.putFile loc d).data? v.next = some d :=
  lookup_insertKey_self ..

theorem Transfer.extends (transfer : Transfer v cwd target d v') : Extends v v' := by
  cases transfer with
  | overwritten found => exact extends_putData ..
  | created vacant => exact extends_putFile (get?_of_vacant vacant)
  | swallowed found => exact extends_devices ..

/-- The target holds what it was filled with, unless it is a device. -/
theorem Transfer.find_target (transfer : Transfer v cwd target d v') :
    (∃ loc e, v.find cwd target = .ok (loc, e) ∧ e.IsDevice) ∨
      ∃ loc id, v'.find cwd target = .ok (loc, .file id) ∧ v'.data? id = some d := by
  have ext := transfer.extends
  cases transfer with
  | overwritten found => exact .inr ⟨_, _, ext.find found, data?_putData_self ..⟩
  | created vacant =>
    exact .inr ⟨_, _, ext.find_of_vacant vacant (get?_putFile_self (get?_of_vacant vacant)),
      data?_putFile_self ..⟩
  | swallowed found device _ => exact .inl ⟨_, _, found, device⟩

theorem mayRead_modeOf (read : v.read cwd path = .ok bytes) (found : v.find cwd path = .ok (loc, e))
    (noPipe : v.isPipe cwd path ≠ true) : mayRead (v.modeOf e) = true := by
  obtain ⟨⟨loc', e'⟩, found', read⟩ := bind_eq_ok_iff.mp read
  cases found.symm.trans found'
  cases e with
  | directory mode => cases read
  | file id =>
    dsimp only at read
    rw [modeOf]
    cases held : v.data? id with
    | none =>
      rw [held] at read
      cases read
    | some d =>
      rw [held] at read
      dsimp only at read
      split at read
      · assumption
      · cases read
  | link =>
    change mayRead 0o777 = true
    decide
  | sink id =>
    dsimp only at read
    split at read
    · assumption
    · cases read
  | pipe mode => exact absurd (isPipe_iff.mpr ⟨loc, mode, found⟩) noPipe

theorem setMode_of_file (found : v.find cwd path = .ok (loc, .file id)) (data : v.data? id = some d)
    (mode : Nat) : v.setMode cwd path mode = .ok (v.putData id ⟨d.bytes, mode⟩) := by
  refine bind_eq_ok_iff.mpr ⟨_, found, ?_⟩
  dsimp only
  rw [data]
  rfl

theorem setMode_of_device (found : v.find cwd path = .ok (loc, e)) (device : e.IsDevice)
    (mode : Nat) : ∃ devices, v.setMode cwd path mode = .ok { v with devices } ∧
      ∀ id, e ≠ .sink id → devices.lookup id = v.devices.lookup id := by
  cases e with
  | file id => exact absurd rfl (device.1 id)
  | directory mode => exact absurd rfl (device.2.1 mode)
  | pipe mode => exact absurd rfl (device.2.2 mode)
  | link aim => exact ⟨v.devices, bind_eq_ok_iff.mpr ⟨_, found, rfl⟩, fun _ _ => rfl⟩
  | sink id =>
    refine ⟨_, bind_eq_ok_iff.mpr ⟨_, found, rfl⟩, fun other apart => ?_⟩
    exact lookup_insertKey_of_ne (fun same => apart (congrArg Entry.sink same.symm)) ..

theorem transfer_of_write (noPipe : v.isPipe cwd target ≠ true)
    (written : v.write cwd target (fun _ => bytes) = .ok w) :
    ∃ mode, Transfer v cwd target ⟨bytes, mode⟩ w := by
  obtain ⟨directory, name, d, vacant, rfl, rfl⟩ | ⟨there, id, d, found, -, rfl⟩ |
    ⟨there, e, found, plain, passable, rfl⟩ := write_eq_ok written
  · exact ⟨d.mode, .created vacant⟩
  · exact ⟨d.mode, .overwritten found⟩
  · have device : e.IsDevice := by
      refine ⟨plain, passable, ?_⟩
      rintro mode rfl
      exact noPipe (isPipe_iff.mpr ⟨there, mode, found⟩)
    exact ⟨0, .swallowed found device fun _ _ => rfl⟩

/-- What was brought to a place gets its permission bits. -/
theorem Transfer.setMode (transfer : Transfer v cwd target d w) (mode : Nat) :
    ∃ v', w.setMode cwd target mode = .ok v' ∧ Transfer v cwd target ⟨d.bytes, mode⟩ v' := by
  have ext := transfer.extends
  cases transfer with
  | overwritten found =>
    refine ⟨_, setMode_of_file (ext.find found) (data?_putData_self ..) mode, ?_⟩
    rw [putData_putData]
    exact .overwritten found
  | created vacant =>
    have made := ext.find_of_vacant vacant (get?_putFile_self (get?_of_vacant vacant))
    refine ⟨_, setMode_of_file made (data?_putFile_self ..) mode, ?_⟩
    rw [putData_putFile]
    exact .created vacant
  | swallowed found device others =>
    obtain ⟨devices, set, others'⟩ := setMode_of_device (ext.find found) device mode
    exact ⟨_, set, .swallowed found device fun id apart => (others' id apart).trans (others id apart)⟩

/-- Octets are not copied because both ends are one file, or because one of them cannot be opened;
otherwise those that come through are brought to the target. -/
theorem copyOctets_outcome (v : Volume) (m : Medium) (cwd : Loc) (source target : String) :
    (v.copyOctets m cwd source target = .error .sameFile ∧ v.isSameFile cwd source target = true) ∨
      v.isSameFile cwd source target ≠ true ∧
        ((∃ cause, v.copyOctets m cwd source target = .error (.refused cause)) ∧
            (v.isPipe cwd source = true ∨ v.isPipe cwd target = true ∨
              ∀ bytes, v.read cwd source = .ok bytes →
                ∃ e, v.write cwd target (fun _ => bytes) = .error e) ∨
          ∃ bytes mode w, v.copyOctets m cwd source target = .ok (bytes, w) ∧
            v.isPipe cwd source ≠ true ∧ v.read cwd source = .ok bytes ∧
            Transfer v cwd target ⟨m.carried target bytes, mode⟩ w) := by
  unfold copyOctets
  by_cases same : v.isSameFile cwd source target = true
  · rw [if_pos same]
    exact .inl ⟨rfl, same⟩
  rw [if_neg same]
  refine .inr ⟨same, ?_⟩
  by_cases fromPipe : v.isPipe cwd source = true
  · rw [if_pos fromPipe]
    exact .inl ⟨⟨_, rfl⟩, .inl fromPipe⟩
  rw [if_neg fromPipe]
  by_cases toPipe : v.isPipe cwd target = true
  · rw [if_pos toPipe]
    exact .inl ⟨⟨_, rfl⟩, .inr (.inl toPipe)⟩
  rw [if_neg toPipe]
  cases read : v.read cwd source with
  | error e => exact .inl ⟨⟨_, rfl⟩, .inr (.inr nofun)⟩
  | ok bytes =>
    dsimp only [mapError_ok, bind, Except.bind]
    cases written : v.write cwd target fun _ => m.carried target bytes with
    | error e =>
      exact .inl ⟨⟨_, rfl⟩, .inr (.inr fun _ _ => ⟨e, write_eq_error_congr written⟩)⟩
    | ok w =>
      obtain ⟨mode, transfer⟩ := transfer_of_write toPipe written
      exact .inr ⟨bytes, mode, w, rfl, fromPipe, rfl, transfer⟩

theorem carried_of_stop?_eq_none (calm : m.stop? target bytes = none) :
    m.carried target bytes = bytes := by
  unfold Medium.stop? at calm
  unfold Medium.carried
  cases broken : m.breaks target bytes with
  | none => rfl
  | some stop =>
    rw [broken] at calm
    cases calm

theorem copyFile_of_error {stop : CopyStop}
    (shut : v.copyOctets m cwd source (v.copyTarget cwd source destination) = .error stop) :
    v.copyFile m cwd source destination = (v, .error stop) := by
  unfold copyFile
  dsimp only
  rw [shut]

/-- A copy that opens its target fills it with what is read from its source, as far as nothing comes
in the way. -/
theorem copyFile_of_ok
    (opened : v.copyOctets m cwd source (v.copyTarget cwd source destination) = .ok (bytes, w)) :
    let target := v.copyTarget cwd source destination
    v.read cwd source = .ok bytes ∧
      ∃ d, Transfer v cwd target d (v.copyFile m cwd source destination).1 ∧
        d.bytes = m.carried target bytes ∧
        match m.stop? target bytes with
        | some cause => (v.copyFile m cwd source destination).2 = .error (.refused cause)
        | none => (v.copyFile m cwd source destination).2 = .ok () ∧
            v.reading? cwd source = some d ∧ mayRead d.mode = true := by
  unfold copyFile
  generalize v.copyTarget cwd source destination = target at opened ⊢
  dsimp only
  rw [opened]
  obtain ⟨shut, -⟩ | ⟨-, ⟨⟨cause, shut⟩, -⟩ | ⟨bytes', mode, w', copied, noPipe, read, transfer⟩⟩ :=
    v.copyOctets_outcome m cwd source target
  · cases opened.symm.trans shut
  · cases opened.symm.trans shut
  cases opened.symm.trans copied
  refine ⟨read, ?_⟩
  dsimp only
  cases stop : m.stop? target bytes with
  | some cause => exact ⟨_, transfer, rfl, rfl⟩
  | none =>
    obtain ⟨loc, e, found, -⟩ := find_of_read read
    obtain ⟨v', set, marked⟩ := transfer.setMode (v.modeOf e)
    have moded : v.copyMode w cwd source target = .ok v' := by
      unfold copyMode
      rw [found]
      exact mapError_eq_ok_iff.mpr set
    rw [moded]
    refine ⟨_, marked, rfl, rfl, ?_⟩
    rw [carried_of_stop?_eq_none stop]
    exact ⟨reading?_eq_some_iff.mpr ⟨read, loc, e, found, rfl⟩, mayRead_modeOf read found noPipe⟩

/-- A copy leaves a volume as it is, or fills its target. -/
theorem copyFile_fst (v : Volume) (m : Medium) (cwd : Loc) (source destination : String) :
    (v.copyFile m cwd source destination).1 = v ∨
      ∃ d, Transfer v cwd (v.copyTarget cwd source destination) d
        (v.copyFile m cwd source destination).1 := by
  rcases opened : v.copyOctets m cwd source (v.copyTarget cwd source destination) with
    stop | ⟨bytes, w⟩
  · exact .inl (congrArg Prod.fst (copyFile_of_error opened))
  · obtain ⟨-, d, transfer, -⟩ := copyFile_of_ok opened
    exact .inr ⟨d, transfer⟩

theorem isRegular_eq_true_iff :
    v.isRegular cwd path = .ok true ↔ ∃ loc id, v.find cwd path = .ok (loc, .file id) := by
  unfold isRegular
  rcases v.find cwd path with e | ⟨loc, e⟩
  · by_cases absent : isAbsence e = true <;> simp [absent]
  · cases e <;> simp

theorem copyTarget_of_takesFile (takes : v.TakesFile cwd destination) :
    v.copyTarget cwd source destination = destination := by
  refine if_neg fun directory => ?_
  unfold isDirectory at directory
  split at directory
  · next found =>
    obtain ⟨id, file⟩ := takes _ _ found
    cases file
  · cases directory

/-- What is one file with a regular one is that file, if only a file can be there. -/
theorem find_of_isSameFile {id : Nat} (found : v.find cwd source = .ok (loc, .file id))
    (takes : v.TakesFile cwd target) (same : v.isSameFile cwd source target = true) :
    ∃ place, v.find cwd target = .ok (place, .file id) := by
  unfold isSameFile at same
  rw [found] at same
  rcases there : v.find cwd target with e | ⟨place, e⟩
  · rw [there] at same
    cases same
  · obtain ⟨number, rfl⟩ := takes place e there
    rw [there] at same
    exact ⟨place, by rw [beq_iff_eq.mp same]⟩

/-- A copy of a regular file that is made, or found to be made, leaves a regular file with the
same octets at its destination exactly if nothing else stood there. -/
theorem copyFile_delivers_iff {id : Nat} (found : v.find cwd source = .ok (loc, .file id))
    (done : v.copyFile m cwd source destination = (v', .ok ()) ∨
      v.copyFile m cwd source destination = (v', .error .sameFile)) :
    v'.isRegular cwd destination = .ok true ∧
        v'.bytesAt? cwd destination = v.bytesAt? cwd source ↔
      v.TakesFile cwd destination := by
  have kept : Extends v v' ∧ (v.TakesFile cwd destination →
      ∃ place number, v'.find cwd destination = .ok (place, .file number) ∧
        v'.bytesAt? cwd destination = v.bytesAt? cwd source) := by
    rcases opened : v.copyOctets m cwd source (v.copyTarget cwd source destination) with
      stop | ⟨bytes, w⟩
    · rw [copyFile_of_error opened] at done
      obtain done | done := done
      · cases done
      · cases done
        refine ⟨.of_get?_eq fun _ => rfl, fun takes => ?_⟩
        obtain ⟨-, same⟩ | ⟨-, ⟨⟨cause, shut⟩, -⟩ | ⟨_, _, _, copied, -⟩⟩ :=
          v.copyOctets_outcome m cwd source (v.copyTarget cwd source destination)
        · rw [copyTarget_of_takesFile takes] at same
          obtain ⟨place, there⟩ := find_of_isSameFile found takes same
          exact ⟨place, id, there, by rw [bytesAt?, there, bytesAt?, found]⟩
        · cases opened.symm.trans shut
        · cases opened.symm.trans copied
    · obtain ⟨read, d, transfer, octets, ends⟩ := copyFile_of_ok opened
      cases stop : m.stop? (v.copyTarget cwd source destination) bytes with
      | some cause =>
        rw [stop] at ends
        obtain done | done := done <;>
        · rw [done] at ends
          cases ends
      | none =>
        have same : v' = (v.copyFile m cwd source destination).1 := by
          obtain done | done := done <;> rw [done]
        rw [carried_of_stop?_eq_none stop] at octets
        rw [← same] at transfer
        refine ⟨transfer.extends, fun takes => ?_⟩
        rw [copyTarget_of_takesFile takes] at transfer
        obtain ⟨place, e, there, plain, -⟩ | ⟨place, number, there, data⟩ := transfer.find_target
        · obtain ⟨number, file⟩ := takes _ _ there
          exact absurd file (plain number)
        · refine ⟨place, number, there, ?_⟩
          rw [bytesAt?_of_read read found, bytesAt?_of_find there data, octets]
  obtain ⟨ext, delivers⟩ := kept
  constructor
  · rintro ⟨regular, -⟩ place e there
    obtain ⟨place', number, there'⟩ := isRegular_eq_true_iff.mp regular
    rw [ext.find there] at there'
    cases there'
    exact ⟨number, rfl⟩
  · intro takes
    obtain ⟨place, number, there, same⟩ := delivers takes
    exact ⟨isRegular_eq_true_iff.mpr ⟨place, number, there⟩, same⟩

end Volume

end TexBuild
