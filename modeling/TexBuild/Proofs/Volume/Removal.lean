import TexBuild.Proofs.Volume.Directory
import TexBuild.Proofs.Volume.Erasure

namespace TexBuild.Volume

variable {v v' : Volume} {cwd loc spare : Loc} {path : String} {p : Path} {n : Name} {mode : Nat}

theorem changeable_erase_of_ne (apart : loc ≠ spare) :
    (v.erase spare).changeable loc = v.changeable loc := by
  unfold changeable
  rw [get?_erase_of_ne v apart]

theorem get?_of_changeable (open' : v.changeable loc = .ok ()) :
    ∃ mode, v.get? loc = some (.directory mode) := by
  unfold changeable at open'
  split at open'
  · exact ⟨_, ‹_›⟩
  · cases open'
  · cases open'

theorem findLink_eq :
    v.findLink cwd path =
      match v.locate cwd false path with
      | .ok (.there loc e) => .ok (loc, e)
      | .ok (.vacant _ _) => .error .noEntry
      | .error x => .error x := by
  unfold findLink
  obtain x | ⟨loc, e⟩ | ⟨directory, name⟩ := v.locate cwd false path <;> rfl

theorem locate_of_long {follow : Bool} (some : path ≠ "") (long : pathLimit < Text.octets path.toList) :
    v.locate cwd follow path = .error .nameTooLong := by
  rw [locate, if_neg some, if_pos long]

theorem unlink_of_findLink {e : Entry} (found : v.findLink cwd path = .ok (loc, e))
    (plain : ∀ mode, e ≠ .directory mode) :
    v.unlink cwd path = (v.changeable loc.tail).map fun _ => v.erase loc := by
  unfold unlink
  rw [found]
  cases e with
  | directory mode => exact absurd rfl (plain mode)
  | _ =>
    change (v.changeable loc.tail >>= fun _ => pure (v.erase loc)) = _
    cases v.changeable loc.tail <;> rfl

/-- What is no directory is removed from a directory, where it is missing from then on, unless
the removal is refused. -/
theorem unlink_child (down : n ≠ Name.up)
    (found : v.find cwd p.text = .ok (loc, .directory mode)) (leaf : v.IsLeaf (n :: loc))
    (apart : ¬ v.Passes cwd p.text (n :: loc)) :
    v.unlink cwd (p.child n).text = .ok (v.erase (n :: loc)) ∧
        (v.erase (n :: loc)).unlink cwd (p.child n).text = .error .noEntry ∨
      ∃ x, v.unlink cwd (p.child n).text = .error x ∧ x ≠ .noEntry := by
  by_cases long : pathLimit < Text.octets (p.child n).text.toList
  · refine .inr ⟨.nameTooLong, ?_, nofun⟩
    rw [unlink, findLink_eq, locate_of_long (Path.text_ne_empty _) long]
    rfl
  have short := Nat.le_of_not_lt long
  have inner : loc ≠ n :: loc := fun same => absurd (congrArg List.length same) (by simp)
  have found' := find_erase_of_ne leaf apart found inner
  have there := get?_of_locate (find_eq_ok_iff.mp found)
  have below : v.locate cwd false (p.child n).text = v.spotIn loc n := by
    rw [locate_child down short, find_eq_ok_iff.mp found, spotBelow]
  have below' : (v.erase (n :: loc)).locate cwd false (p.child n).text =
      (v.erase (n :: loc)).spotIn loc n := by
    rw [locate_child down short, find_eq_ok_iff.mp found', spotBelow]
  cases pass : v.passable loc with
  | error x =>
    refine .inr ⟨x, ?_, fun absent => ?_⟩
    · rw [unlink, findLink_eq, below, spotIn_of_blocked pass]
      rfl
    · unfold passable at pass
      rw [there] at pass
      dsimp only at pass
      split at pass <;> cases pass
      cases absent
  | ok _ =>
  have pass' : (v.erase (n :: loc)).passable loc = .ok () :=
    (passable_erase_of_ne inner).trans pass
  rw [spotIn_of_passable pass] at below
  rw [spotIn_of_passable pass', leaf.get?_erase] at below'
  by_cases wide : nameLimit < n.octets
  · rw [if_pos wide] at below
    refine .inr ⟨.nameTooLong, ?_, nofun⟩
    rw [unlink, findLink_eq, below]
    rfl
  rw [if_neg wide] at below below'
  obtain ⟨e, taken, plain⟩ := id leaf
  rw [taken] at below
  have removes : v.unlink cwd (p.child n).text =
      (v.changeable loc).map fun _ => v.erase (n :: loc) :=
    unlink_of_findLink (findLink_eq.trans (by rw [below])) plain
  cases changeable : v.changeable loc with
  | error x =>
    refine .inr ⟨x, by rw [removes, changeable]; rfl, fun absent => ?_⟩
    unfold Volume.changeable at changeable
    rw [there] at changeable
    dsimp only at changeable
    split at changeable <;> cases changeable
    cases absent
  | ok _ =>
    refine .inl ⟨by rw [removes, changeable]; rfl, ?_⟩
    rw [unlink, findLink_eq, below']
    rfl

/-- What is removed is no directory, and is gone. -/
theorem unlink_eq_ok (removed : v.unlink cwd path = .ok v') :
    ∃ loc e, v.findLink cwd path = .ok (loc, e) ∧ v.IsLeaf loc ∧ v' = v.erase loc := by
  obtain ⟨⟨loc, e⟩, found, removed⟩ := bind_eq_ok_iff.mp removed
  refine ⟨loc, e, found, ?_⟩
  have there : v.get? loc = some e := by
    rw [findLink_eq] at found
    split at found
    · next located =>
      cases found
      exact get?_of_locate located
    · cases found
    · cases found
  cases e with
  | directory mode => cases removed
  | _ =>
    obtain ⟨_, -, removed⟩ := bind_eq_ok_iff.mp removed
    cases removed
    exact ⟨⟨_, there, nofun⟩, rfl⟩

end TexBuild.Volume
