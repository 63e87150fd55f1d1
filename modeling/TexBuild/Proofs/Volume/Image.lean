import TexBuild.Proofs.Except
import TexBuild.Proofs.Path.Spelling
import TexBuild.Proofs.Volume.Walk
import TexBuild.Volume.Image

namespace TexBuild.Volume

variable {v : Volume} {cwd : Loc} {path : String} {image : Image} {depth : Nat}

/-- An absolute path leads to the same from every directory. -/
theorem find_of_isAbsolute (absolute : (Path.ofString path).IsAbsolute) (d d' : Loc) :
    v.find d path = v.find d' path := by
  simp only [find, locate, Path.origin_of_isAbsolute absolute]

/-- What is run is the file that the path leads to. -/
theorem program_eq_ok_iff {loc : Loc} {d : FileData} :
    v.program cwd path = .ok (loc, d) ↔
      ∃ id, v.find cwd path = .ok (loc, .file id) ∧ v.data? id = some d ∧ mayEnter d.mode = true := by
  unfold program
  rcases v.find cwd path with e | ⟨there, e⟩
  · exact ⟨nofun, fun ⟨_, found, _⟩ => nomatch found⟩
  cases e with
  | file id =>
    rcases held : v.data? id with _ | d'
    · simp only [held, bind, Except.bind]
      refine ⟨nofun, ?_⟩
      rintro ⟨_, found, holds, -⟩
      cases found
      cases held.symm.trans holds
    · simp only [held, bind, Except.bind]
      by_cases runs : mayEnter d'.mode = true
      · rw [if_pos runs]
        constructor
        · intro same
          cases same
          exact ⟨id, rfl, held, runs⟩
        · rintro ⟨_, found, holds, -⟩
          cases found
          cases held.symm.trans holds
          rfl
      · rw [if_neg runs]
        refine ⟨nofun, ?_⟩
        rintro ⟨_, found, holds, may⟩
        cases found
        cases held.symm.trans holds
        exact absurd may runs
  | _ => exact ⟨nofun, fun ⟨_, found, _⟩ => nomatch found⟩

/-- What is loaded is the file that the path leads to, whatever interprets it. -/
theorem find_of_load (loaded : v.load cwd path = .ok image) :
    ∃ e, v.find cwd path = .ok (image.file, e) := by
  unfold load loadWith at loaded
  obtain ⟨⟨loc, d⟩, there, loaded⟩ := bind_eq_ok_iff.mp loaded
  obtain ⟨id, found, -, -⟩ := program_eq_ok_iff.mp there
  have file : image.file = loc := by
    dsimp only at loaded
    split at loaded
    case isTrue =>
      cases loaded
      rfl
    split at loaded
    case h_3 =>
      obtain ⟨inner, -, made⟩ := bind_eq_ok_iff.mp loaded
      cases made
      rfl
    all_goals cases loaded
  exact ⟨_, by rw [file, found]⟩

/-- The interpreter that the file at an absolute path asks for. -/
def interpreterAt? (v : Volume) (path : String) : Option String :=
  match v.find [] path with
  | .ok (_, .file id) =>
    ((v.data? id).bind fun d => interpreter? (Octet.ofBytes d.bytes)).map fun i => Octet.toText i.1
  | _ => none

/-- A path and all interpreters that it leads through are spelled from the root. -/
def isAnchored (v : Volume) : Nat → String → Bool
  | 0, _ => true
  | depth + 1, path =>
    decide (Path.ofString path).IsAbsolute &&
      match v.interpreterAt? path with
      | some interpreter => v.isAnchored depth interpreter
      | none => true

theorem toOption_loadWith_zero : (v.loadWith cwd 0 path).toOption = none := by
  unfold loadWith
  cases v.program cwd path <;> rfl

/-- What is loaded from a path that is spelled from the root is the same from every directory, if
that is so for its interpreters. -/
theorem loadWith_of_isAnchored (anchored : v.isAnchored depth path = true) (d d' : Loc) :
    (v.loadWith d depth path).toOption = (v.loadWith d' depth path).toOption := by
  induction depth generalizing path with
  | zero => rw [toOption_loadWith_zero, toOption_loadWith_zero]
  | succ depth ih =>
    rw [isAnchored, Bool.and_eq_true, decide_eq_true_iff] at anchored
    obtain ⟨absolute, further⟩ := anchored
    have same (d : Loc) : v.program d path = v.program [] path := by
      unfold program
      rw [find_of_isAbsolute absolute d []]
    rw [loadWith, loadWith, same d, same d']
    rcases there : v.program [] path with e | ⟨loc, data⟩
    · rfl
    obtain ⟨id, found, held, -⟩ := program_eq_ok_iff.mp there
    unfold interpreterAt? at further
    rw [found] at further
    dsimp only at further
    rw [held, Option.bind_some] at further
    simp only [bind, Except.bind]
    split
    · rfl
    rcases asked : interpreter? (Octet.ofBytes data.bytes) with _ | ⟨_ | ⟨c, cs⟩, argument⟩
    · rfl
    · rfl
    · rw [asked] at further
      dsimp only
      change (v.loadWith d depth _ >>= _).toOption = (v.loadWith d' depth _ >>= _).toOption
      rw [toOption_bind, toOption_bind, ih further]

end TexBuild.Volume
