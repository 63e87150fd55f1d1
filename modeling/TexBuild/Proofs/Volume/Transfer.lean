import TexBuild.Proofs.Volume.Frame

namespace TexBuild.Volume

variable {v v' : Volume} {cwd loc l : Loc} {e : Entry} {id : Nat} {d : FileData}
  {source target path : String}

theorem read_of_file (found : v.find cwd path = .ok (loc, .file id)) (data : v.data? id = some d)
    (readable : mayRead d.mode = true) : v.read cwd path = .ok d.bytes := by
  refine bind_eq_ok_iff.mpr ⟨_, found, ?_⟩
  dsimp only
  rw [data]
  dsimp only
  rw [if_pos readable]
  rfl

theorem reading?_of_file (found : v.find cwd path = .ok (loc, .file id)) (data : v.data? id = some d)
    (readable : mayRead d.mode = true) : v.reading? cwd path = some d :=
  reading?_eq_some_iff.mpr ⟨read_of_file found data readable, loc, _, found, by rw [modeOf, data]⟩

/-- What is read does not depend on the spelling of the way to it. -/
theorem reading?_congr {other : String} {place : Loc} (found : v.find cwd path = .ok (loc, e))
    (found' : v.find cwd other = .ok (place, e)) : v.reading? cwd other = v.reading? cwd path := by
  have same : v.read cwd other = v.read cwd path := by
    unfold read
    rw [found, found']
    rfl
  unfold reading?
  rw [same, found, found']
  cases v.read cwd path <;> rfl

/-- A file that is changed is that at the target. -/
theorem Transfer.find_of_data?_ne (transfer : Transfer v cwd target d v') (numbered : v.Numbered)
    (file : v.get? loc = some (.file id)) (changed : v'.data? id ≠ v.data? id) :
    ∃ place, v.find cwd target = .ok (place, .file id) := by
  cases transfer with
  | @overwritten place number found =>
    by_cases same : id = number
    · exact ⟨place, same ▸ found⟩
    · exact absurd (data?_putData_of_ne _ _ same) changed
  | created vacant =>
    have apart : id ≠ v.next := Nat.ne_of_lt (numbered loc id file)
    exact absurd (lookup_insertKey_of_ne apart ..) changed
  | swallowed => exact absurd rfl changed

/-- What is filled from a file leaves that file as it was, unless it is the same one. -/
theorem Transfer.source_kept (transfer : Transfer v cwd target d v') (numbered : v.Numbered)
    (apart : v.isSameFile cwd source target ≠ true)
    (found : v.find cwd source = .ok (loc, .file id)) :
    v'.find cwd source = .ok (loc, .file id) ∧ v'.data? id = v.data? id := by
  refine ⟨transfer.extends.find found, Classical.byContradiction fun changed => ?_⟩
  obtain ⟨place, there⟩ :=
    transfer.find_of_data?_ne numbered (get?_of_locate (find_eq_ok_iff.mp found)) changed
  refine apart ?_
  unfold isSameFile
  rw [found, there]
  exact beq_self_eq_true id

/-- Where the entries are the same, a place that is different is a name of a file or device with
another content. -/
theorem contentOf_of_differsAt (same : v'.get? l = v.get? l) (changed : DiffersAt v v' l) :
    ∃ e, v'.get? l = some e ∧ v'.contentOf e ≠ v.contentOf e := by
  obtain stands | content := changed
  · exact absurd same stands
  · unfold fileAt? at content
    rw [← same] at content
    cases there : v'.get? l with
    | none => exact absurd (by rw [there]; rfl) content
    | some e =>
      rw [there] at content
      exact ⟨e, rfl, content⟩

/-- What is brought to a place changes nothing but the file or device there. -/
theorem Transfer.differsOnlyAt (transfer : Transfer v cwd target d v') (numbered : v.Numbered) :
    DiffersOnlyAt v v' cwd target := by
  intro l changed
  have ext := transfer.extends
  cases transfer with
  | @overwritten place id found =>
    obtain ⟨e, there, content⟩ := contentOf_of_differsAt (get?_putData ..) changed
    cases e with
    | file number =>
      have own : number = id := by
        refine Classical.byContradiction fun apart => content ?_
        exact data?_putData_of_ne _ _ apart
      subst own
      exact ⟨place, _, ext.find found, there, number, .inl rfl⟩
    | _ => exact absurd rfl content
  | @created directory name vacant =>
    have free := get?_of_vacant vacant
    have taken := ext.find_of_vacant vacant (get?_putFile_self free)
    by_cases here : l = name :: directory
    · subst here
      exact ⟨_, _, taken, get?_putFile_self free, v.next, .inl rfl⟩
    · have kept := get?_putFile_of_ne (v := v) (d := d) here
      refine absurd changed (not_differsAt kept (fun number file => ?_) rfl)
      exact lookup_insertKey_of_ne (Nat.ne_of_lt (numbered l number file)) ..
  | @swallowed place e devices found device others =>
    have same : ({ v with devices } : Volume).get? l = v.get? l := by cases l <;> rfl
    obtain ⟨e', there, content⟩ := contentOf_of_differsAt same changed
    cases e' with
    | sink number =>
      have own : e = .sink number := by
        refine Classical.byContradiction fun apart => content ?_
        rw [contentOf, contentOf, deviceMode, deviceMode, others number apart]
      subst own
      exact ⟨place, _, ext.find found, there, number, .inr rfl⟩
    | _ => exact absurd rfl content

end TexBuild.Volume
