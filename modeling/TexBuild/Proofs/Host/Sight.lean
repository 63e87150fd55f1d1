import TexBuild.Proofs.Host.Resolution
import TexBuild.Proofs.Volume.Removal

namespace TexBuild

namespace Volume

variable {v w : Volume} {cwd l spare : Loc} {p : Path} {n : Name} {e : Entry} {path : String}

theorem findLink_eq_ok_iff :
    v.findLink cwd path = .ok (l, e) ↔ v.locate cwd false path = .ok (.there l e) := by
  rw [findLink_eq]
  obtain x | ⟨loc, e'⟩ | ⟨directory, name⟩ := v.locate cwd false path <;> simp

theorem Extends.findLink (ext : Extends v w) (found : v.findLink cwd path = .ok (l, e)) :
    w.findLink cwd path = .ok (l, e) :=
  findLink_eq_ok_iff.mpr (ext.locate (findLink_eq_ok_iff.mp found))

/-- A path one name further down names what stands there in the directory to which the path
leads. -/
theorem findLink_child_eq_ok_iff (down : n ≠ Name.up) :
    v.findLink cwd (p.child n).text = .ok (l, e) ↔
      (Text.octets (p.child n).text.toList ≤ pathLimit ∧ n.octets ≤ nameLimit) ∧
        ∃ directory e', v.find cwd p.text = .ok (directory, e') ∧
          v.passable directory = .ok () ∧ l = n :: directory ∧ v.get? l = some e := by
  rw [findLink_eq_ok_iff]
  by_cases long : pathLimit < Text.octets (p.child n).text.toList
  · rw [locate_of_long (Path.text_ne_empty _) long]
    exact iff_of_false (fun none => by cases none) fun found => Nat.not_le_of_lt long found.1.1
  rw [locate_child down (Nat.le_of_not_lt long), and_iff_right (Nat.le_of_not_lt long)]
  simp only [find_eq_ok_iff]
  obtain x | ⟨directory, e'⟩ | ⟨directory, name⟩ := v.locate cwd true p.text
  · simp [spotBelow]
  · rw [spotBelow]
    cases pass : v.passable directory with
    | error x =>
      rw [spotIn_of_blocked pass]
      refine iff_of_false (fun none => by cases none) ?_
      rintro ⟨-, _, _, same, pass', -⟩
      cases same
      rw [pass] at pass'
      cases pass'
    | ok _ =>
      rw [spotIn_of_passable pass]
      by_cases wide : nameLimit < n.octets
      · rw [if_pos wide]
        exact iff_of_false (fun none => by cases none) fun found => Nat.not_le_of_lt wide found.1
      · rw [if_neg wide, and_iff_right (Nat.le_of_not_lt wide)]
        constructor
        · intro there
          split at there
          · cases there
          · cases there
            exact ⟨directory, e', rfl, pass, rfl, ‹_›⟩
        · rintro ⟨_, _, same, -, rfl, there⟩
          cases same
          rw [there]
  · simp [spotBelow]

/-- What outlasts the removal of an entry by its name is what is not that entry and not beyond
it. -/
theorem findLink_child_erase_eq_ok_iff (down : n ≠ Name.up) (leaf : v.IsLeaf spare) :
    (v.erase spare).findLink cwd (p.child n).text = .ok (l, e) ↔
      v.findLink cwd (p.child n).text = .ok (l, e) ∧ l ≠ spare ∧ ¬ v.Passes cwd p.text spare := by
  rw [findLink_child_eq_ok_iff down, findLink_child_eq_ok_iff down]
  constructor
  · rintro ⟨short, directory, e', found, pass, rfl, there⟩
    obtain ⟨found, apart, clear⟩ := (find_erase_eq_ok_iff leaf).mp found
    obtain ⟨other, there⟩ := get?_of_get?_erase leaf there
    rw [passable_erase_of_ne apart] at pass
    exact ⟨⟨short, directory, e', found, pass, rfl, there⟩, other, clear⟩
  · rintro ⟨⟨short, directory, e', found, pass, rfl, there⟩, other, clear⟩
    have apart : directory ≠ spare := by
      rintro rfl
      rw [leaf.passable] at pass
      cases pass
    have found := (find_erase_eq_ok_iff leaf).mpr ⟨found, apart, clear⟩
    refine ⟨short, directory, e', found, ?_, rfl, ?_⟩
    · rw [passable_erase_of_ne apart, pass]
    · rw [get?_erase_of_ne v other, there]

end Volume

namespace Host

/-- What a path names, and where. -/
def named? (h : Host) (p : Path) : Option (Loc × Entry) :=
  (h.volume.findLink h.cwd p.text).toOption

/-- The content of the regular file to which a path leads. -/
def content? (h : Host) (p : Path) : Option FileData :=
  match h.volume.find h.cwd p.text with
  | .ok (_, .file id) => h.volume.data? id
  | _ => none

/-- All that is seen at a path. -/
def sight (h : Host) (p : Path) : Option (Loc × Entry) × Option FileData :=
  (h.named? p, h.content? p)

/-- What is seen of a name in a directory rests on the entry at a place: it is that entry, it is
reached over it, or the file is read through it. -/
def Rests (h : Host) (p : Path) (n : Name) (loc : Loc) : Prop :=
  (∃ place, h.named? (p.child n) = some place ∧
      (place.1 = loc ∨ h.volume.Passes h.cwd p.text loc)) ∨
    ∃ d, h.content? (p.child n) = some d ∧ h.Uses (p.child n) loc

/-- Something comes into sight where there was nothing. -/
def Gains (h h' : Host) (p : Path) : Prop :=
  h.named? p = none ∧ h'.named? p ≠ none ∨ h.content? p = none ∧ h'.content? p ≠ none

variable {h : Host} {v : Volume} {p : Path} {n : Name} {spare : Loc} {d : FileData} {id : Nat}

theorem named?_eq_some_iff {place : Loc × Entry} :
    h.named? p = some place ↔ h.volume.findLink h.cwd p.text = .ok place :=
  toOption_eq_some_iff

theorem content?_eq_some_iff :
    h.content? p = some d ↔
      ∃ loc id, h.volume.find h.cwd p.text = .ok (loc, .file id) ∧ h.volume.data? id = some d := by
  unfold content?
  rcases h.volume.find h.cwd p.text with x | ⟨loc, e⟩
  · simp
  · cases e with
    | file id =>
      refine ⟨fun data => ⟨loc, id, rfl, data⟩, ?_⟩
      rintro ⟨_, _, same, data⟩
      cases same
      exact data
    | _ => simp

/-- What is seen stays in sight where directories are made. -/
theorem sight_eq_iff_of_grown (grown : Volume.Grown h.volume v) :
    let h' : Host := { h with volume := v }
    h'.sight p = h.sight p ↔ ¬ h.Gains h' p := by
  intro h'
  have entries {l e} (named : h.named? p = some (l, e)) : h'.named? p = some (l, e) :=
    named?_eq_some_iff.mpr (grown.entries.findLink (named?_eq_some_iff.mp named))
  have contents {d} (held : h.content? p = some d) : h'.content? p = some d := by
    obtain ⟨loc, id, found, data⟩ := content?_eq_some_iff.mp held
    refine content?_eq_some_iff.mpr ⟨loc, id, grown.entries.find found, ?_⟩
    rw [Volume.data?, grown.files]
    exact data
  rw [sight, sight, Prod.mk.injEq, Gains, not_or, not_and_not_right, not_and_not_right]
  refine and_congr ⟨fun same absent => same.trans absent, fun absent => ?_⟩
    ⟨fun same absent => same.trans absent, fun absent => ?_⟩
  · cases named : h.named? p with
    | none => exact absent named
    | some place => exact entries named
  · cases held : h.content? p with
    | none => exact absent held
    | some d => exact contents held

/-- What outlasts a loss is the same as before exactly if it was not lost. -/
theorem option_eq_iff_of_lost {α : Type} {o o' : Option α} {lost : α → Prop}
    (kept : ∀ a, o' = some a ↔ o = some a ∧ ¬ lost a) :
    o' = o ↔ ¬ ∃ a, o = some a ∧ lost a := by
  constructor
  · rintro rfl ⟨a, held, gone⟩
    exact ((kept a).mp held).2 gone
  · intro none
    exact Option.ext fun a =>
      (kept a).trans (and_iff_left_of_imp fun held gone => none ⟨a, held, gone⟩)

/-- What is seen of a name outlasts the removal of an entry exactly if it does not rest on it. -/
theorem sight_without_iff (down : n ≠ Name.up) (leaf : h.volume.IsLeaf spare) :
    (h.without spare).sight (p.child n) = h.sight (p.child n) ↔ ¬ h.Rests p n spare := by
  have entries (place : Loc × Entry) : (h.without spare).named? (p.child n) = some place ↔
      h.named? (p.child n) = some place ∧
        ¬ (place.1 = spare ∨ h.volume.Passes h.cwd p.text spare) := by
    rw [named?_eq_some_iff, named?_eq_some_iff, not_or]
    exact Volume.findLink_child_erase_eq_ok_iff down leaf
  have contents (d : FileData) : (h.without spare).content? (p.child n) = some d ↔
      h.content? (p.child n) = some d ∧ ¬ h.Uses (p.child n) spare := by
    rw [content?_eq_some_iff, content?_eq_some_iff]
    constructor
    · rintro ⟨loc, id, found, data⟩
      obtain ⟨found, other, apart⟩ := (Volume.find_erase_eq_ok_iff leaf).mp found
      refine ⟨⟨loc, id, found, data⟩, not_or.mpr ⟨apart, ?_⟩⟩
      rintro ⟨e, there⟩
      cases found.symm.trans there
      exact other rfl
    · rintro ⟨⟨loc, id, found, data⟩, unused⟩
      obtain ⟨apart, other⟩ := not_or.mp unused
      refine ⟨loc, id, (Volume.find_erase_eq_ok_iff leaf).mpr ⟨found, ?_, apart⟩, data⟩
      rintro rfl
      exact other ⟨_, found⟩
  rw [sight, sight, Prod.mk.injEq, option_eq_iff_of_lost entries, option_eq_iff_of_lost contents,
    Rests, not_or]

end Host

end TexBuild
