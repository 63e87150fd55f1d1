import TexBuild.Proofs.Host.Sight
import TexBuild.Proofs.Volume.Copy

namespace TexBuild.Volume

/-- A place is not the same on two volumes: something else stands there, or the file there has
become another one. -/
def DiffersAt (v w : Volume) (loc : Loc) : Prop :=
  w.get? loc ≠ v.get? loc ∨ w.fileAt? loc ≠ v.fileAt? loc

/-- Two volumes are the same but for the file or device to which a path leads. -/
def DiffersOnlyAt (v w : Volume) (cwd : Loc) (path : String) : Prop :=
  ∀ loc, DiffersAt v w loc → ∃ place e, w.find cwd path = .ok (place, e) ∧ w.get? loc = some e ∧
    ∃ id, e = .file id ∨ e = .sink id

/-- The numbers of all files lie below the free ones. -/
def Numbered (v : Volume) : Prop :=
  ∀ loc id, v.get? loc = some (.file id) → id < v.next

/-- A place was free on the first volume and is a directory on the second one, to which a path or
a beginning of it leads. -/
def MadeFor (v w : Volume) (cwd : Loc) (p : Path) (loc : Loc) : Prop :=
  v.get? loc = none ∧ ∃ (q : Path) (mode : Nat), q.anchor = p.anchor ∧ q.names <+: p.names ∧
    w.find cwd q.text = .ok (loc, .directory mode)

/-- A spelling names nothing, or a regular file that has no other name. -/
def NamesOwn (v : Volume) (cwd : Loc) (path : String) : Prop :=
  ∀ loc e, v.findLink cwd path = .ok (loc, e) →
    ∃ id, e = .file id ∧ ∀ other, v.get? other = some (.file id) → other = loc

variable {v w u : Volume} {cwd loc : Loc} {p : Path} {d : FileData} {path source target : String}

theorem not_differsAt (same : w.get? loc = v.get? loc)
    (data : ∀ id, v.get? loc = some (.file id) → w.data? id = v.data? id)
    (devices : w.devices = v.devices) : ¬ DiffersAt v w loc := by
  refine not_or.mpr ⟨not_not_intro same, not_not_intro ?_⟩
  unfold fileAt?
  rw [same]
  refine Option.bind_congr fun e there => ?_
  cases e with
  | file id => exact data id there
  | sink id => rw [contentOf, contentOf, deviceMode, deviceMode, devices]
  | _ => rfl

theorem not_differsAt_self : ¬ DiffersAt v v loc :=
  not_differsAt rfl (fun _ _ => rfl) rfl

theorem Numbered.of_forall_mem
    (below : ∀ entry ∈ v.entries, ∀ id, entry.2 = .file id → id < v.next) : v.Numbered := by
  intro loc id file
  cases loc with
  | nil => cases file
  | cons n rest =>
    obtain ⟨before, after, same, -⟩ := List.lookup_eq_some_iff.mp file
    have among : (n :: rest, Entry.file id) ∈ v.entries := by
      rw [same]
      exact List.mem_append_right _ (.head _)
    exact below _ among id rfl

/-- What changes at a place changes there before or after. -/
theorem DiffersAt.split (changed : DiffersAt v u loc) (w : Volume) :
    DiffersAt v w loc ∨ w.get? loc = v.get? loc ∧ DiffersAt w u loc := by
  by_cases before : DiffersAt v w loc
  · exact .inl before
  · obtain ⟨stands, file⟩ := not_or.mp before
    have stands := Classical.not_not.mp stands
    have file := Classical.not_not.mp file
    refine .inr ⟨stands, ?_⟩
    rwa [DiffersAt, stands, file]

section Directories

theorem MadeFor.get? (made : MadeFor v w cwd p loc) :
    ∃ mode, w.get? loc = some (.directory mode) := by
  obtain ⟨-, q, mode, -, -, found⟩ := made
  exact ⟨mode, get?_of_locate (find_eq_ok_iff.mp found)⟩

theorem MadeFor.extends (made : MadeFor v w cwd p loc) (ext : Extends w u) :
    MadeFor v u cwd p loc := by
  obtain ⟨free, q, mode, anchor, beginning, found⟩ := made
  exact ⟨free, q, mode, anchor, beginning, ext.find found⟩

theorem MadeFor.of_parent (made : MadeFor v w cwd p.parent loc) : MadeFor v w cwd p loc := by
  obtain ⟨free, q, mode, anchor, beginning, found⟩ := made
  exact ⟨free, q, mode, anchor, beginning.trans (List.dropLast_prefix p.names), found⟩

theorem madeFor_of_makeDirectory (made : v.makeDirectory cwd p.text = .ok w)
    (changed : DiffersAt v w loc) : MadeFor v w cwd p loc := by
  obtain ⟨place, mode, free, rfl, found⟩ := find_makeDirectory made
  by_cases here : loc = place
  · subst here
    exact ⟨free, p, mode, rfl, List.prefix_refl _, found⟩
  · exact absurd changed (not_differsAt (get?_put_of_ne v _ here) (fun _ _ => rfl) rfl)

/-- Nothing is changed for a directory but by making it and those above it. -/
theorem madeFor_of_makeDirectories (v : Volume) (cwd : Loc) (room : Nat) (p : Path)
    (changed : DiffersAt v (v.makeDirectories cwd room p).1 loc) :
    MadeFor v (v.makeDirectories cwd room p).1 cwd p loc := by
  fun_induction makeDirectories v cwd room p with
  | case1 _ _ _ made => exact madeFor_of_makeDirectory made changed
  | case4 _ _ _ _ _ _ above ih =>
    rw [above] at ih
    exact (ih changed).of_parent
  | case5 _ _ _ _ w _ above _ made ih =>
    rw [above] at ih
    obtain before | ⟨same, after⟩ := changed.split w
    · exact (ih before).of_parent.extends (grown_makeDirectory made).entries
    · obtain ⟨free, rest⟩ := madeFor_of_makeDirectory made after
      exact ⟨same.symm.trans free, rest⟩
  | case6 _ _ _ _ _ _ above _ _ _ ih =>
    rw [above] at ih
    exact (ih changed).of_parent
  | case7 _ _ _ _ _ _ above _ _ _ ih =>
    rw [above] at ih
    exact (ih changed).of_parent
  | _ => exact absurd changed not_differsAt_self

theorem Numbered.makeDirectories (numbered : v.Numbered) (cwd : Loc) (room : Nat) (p : Path) :
    (v.makeDirectories cwd room p).1.Numbered := by
  intro loc id file
  rw [(grown_makeDirectories v cwd room p).next]
  by_cases changed : DiffersAt v (v.makeDirectories cwd room p).1 loc
  · obtain ⟨mode, directory⟩ := (madeFor_of_makeDirectories v cwd room p changed).get?
    rw [file] at directory
    cases directory
  · exact numbered loc id ((Classical.not_not.mp (not_or.mp changed).1).symm.trans file)

end Directories

section Removal

/-- A removal changes the place that the spelling names and no other. -/
theorem findLink_of_unlink (removed : v.unlink cwd path = .ok w) (changed : DiffersAt v w loc) :
    ∃ e, v.findLink cwd path = .ok (loc, e) ∧ w.get? loc = none := by
  obtain ⟨place, e, named, leaf, rfl⟩ := unlink_eq_ok removed
  by_cases here : loc = place
  · subst here
    exact ⟨e, named, leaf.get?_erase⟩
  · exact absurd changed (not_differsAt (get?_erase_of_ne v here) (fun _ _ => rfl) rfl)

theorem Numbered.unlink (numbered : v.Numbered) (removed : v.unlink cwd path = .ok w) :
    w.Numbered := by
  obtain ⟨place, e, -, leaf, rfl⟩ := unlink_eq_ok removed
  exact fun loc id file => numbered loc id (get?_of_get?_erase leaf file).2

end Removal

section Copying

theorem get?_putFile_of_ne {d : FileData} {other : Loc} (apart : other ≠ loc) :
    (v.putFile loc d).get? other = v.get? other := by
  have placed : (v.putFile loc d).get? other = (v.put loc (.file v.next)).get? other := by
    cases other <;> rfl
  rw [placed, get?_put_of_ne v _ apart]

theorem Numbered.putFile (numbered : v.Numbered) (loc : Loc) (d : FileData) :
    (v.putFile loc d).Numbered := by
  intro other id file
  by_cases here : other = loc
  · subst here
    cases other with
    | nil => cases file
    | cons n rest =>
      have placed : (v.putFile (n :: rest) d).get? (n :: rest) = some (.file v.next) :=
        lookup_insertKey_self ..
      cases placed.symm.trans file
      exact Nat.lt_succ_self v.next
  · rw [get?_putFile_of_ne here] at file
    exact Nat.lt_succ_of_lt (numbered other id file)

theorem Numbered.putData (numbered : v.Numbered) (id : Nat) (d : FileData) :
    (v.putData id d).Numbered := by
  intro loc number file
  rw [get?_putData] at file
  exact numbered loc number file

theorem Numbered.transfer (numbered : v.Numbered) (transfer : Transfer v cwd target d w) :
    w.Numbered := by
  cases transfer with
  | overwritten => exact numbered.putData _ _
  | created => exact numbered.putFile _ _
  | swallowed => exact fun loc id file => numbered loc id (by cases loc <;> exact file)

theorem NamesOwn.of_findLink_eq_error {e : Errno} (absent : v.findLink cwd path = .error e) :
    v.NamesOwn cwd path := by
  intro loc e' named
  rw [absent] at named
  cases named

/-- A spelling of a place of its own leads to that place, with or without links. -/
theorem NamesOwn.locate {spot : Spot} (own : v.NamesOwn cwd path)
    (located : v.locate cwd true path = .ok spot) : v.locate cwd false path = .ok spot := by
  obtain same | ⟨l, aim, link⟩ := locate_unfollowed located
  · exact same
  · obtain ⟨id, file, -⟩ := own l _ (findLink_eq_ok_iff.mpr link)
    cases file

theorem NamesOwn.copyTarget (own : v.NamesOwn cwd target) :
    v.copyTarget cwd source target = target := by
  refine copyTarget_of_takesFile fun loc e found => ?_
  obtain ⟨id, file, -⟩ := own loc e (findLink_eq_ok_iff.mpr (own.locate (find_eq_ok_iff.mp found)))
  exact ⟨id, file⟩

/-- What is brought to a place of its own is a file there and changes no other place. -/
theorem findLink_of_transfer (numbered : v.Numbered) (own : v.NamesOwn cwd target)
    (transfer : Transfer v cwd target d w) (changed : DiffersAt v w loc) :
    ∃ id, w.findLink cwd target = .ok (loc, .file id) := by
  have ext := transfer.extends
  cases transfer with
  | @overwritten place id found =>
    have named := findLink_eq_ok_iff.mpr (own.locate (find_eq_ok_iff.mp found))
    obtain ⟨_, same, single⟩ := own place _ named
    cases same
    by_cases here : loc = place
    · subst here
      exact ⟨id, ext.findLink named⟩
    · refine absurd changed (not_differsAt (by simp) (fun number file => ?_) rfl)
      -- the file that is written has no other name
      have apart : number ≠ id := fun same => here (single loc (same ▸ file))
      rw [data?_putData_of_ne _ _ apart]
  | @created directory name vacant =>
    have free := get?_of_vacant vacant
    by_cases here : loc = name :: directory
    · subst here
      refine ⟨v.next, findLink_eq_ok_iff.mpr ?_⟩
      rw [ext.locate (own.locate vacant), Spot.on, get?_putFile_self free]
    · refine absurd changed (not_differsAt ?_ (fun number file => ?_) rfl)
      · rw [get?_putFile_of_ne here]
      · have apart : number ≠ v.next := Nat.ne_of_lt (numbered loc number file)
        exact lookup_insertKey_of_ne apart ..
  | swallowed found device _ =>
    obtain ⟨id, file, -⟩ :=
      own _ _ (findLink_eq_ok_iff.mpr (own.locate (find_eq_ok_iff.mp found)))
    exact absurd file (device.1 id)

end Copying

end TexBuild.Volume
