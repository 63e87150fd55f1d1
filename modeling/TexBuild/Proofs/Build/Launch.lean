import TexBuild.Build.Launch
import TexBuild.Proofs.Volume.Image

namespace TexBuild.Launch

variable {l : Launch} {v : Volume} {d : Loc} {before : List String} {place : String}
  {image : Image}

/-- A program starts where its command line is fit for the system, its directory can be entered,
and there it is found. -/
theorem start_eq_ok_iff :
    l.start v = .ok image ↔ l.isClean = true ∧
      ∃ directory, l.station v = .ok directory ∧ { l with directory }.image v = .ok image := by
  unfold start
  by_cases clean : l.isClean = true
  · rw [if_pos clean]
    simp only [bind_eq_ok_iff, mapError_eq_ok_iff, clean, true_and]
  · rw [if_neg clean]
    exact ⟨nofun, fun ⟨fit, _⟩ => absurd fit clean⟩

/-- A program that need not go to its directory is found from there. -/
theorem image_of_start (started : l.start v = .ok image) (stays : l.enters = false) :
    l.image v = .ok image := by
  obtain ⟨-, directory, there, found⟩ := start_eq_ok_iff.mp started
  unfold station at there
  rw [stays] at there
  cases there
  exact found

/-- A search from a directory stops at this place: none before it runs, and this image does. -/
structure StopsAt (v : Volume) (d : Loc) (before : List String) (place : String)
    (image : Image) : Prop where
  passed : ∀ other ∈ before, (v.load d other).toOption = none
  loaded : v.load d place = .ok image

theorem firstRunnable_eq_ok_iff {places : List String} {remembered : Option Errno} {last : Errno} :
    firstRunnable v d places remembered last = .ok image ↔
      ∃ before place after, places = before ++ place :: after ∧ StopsAt v d before place image := by
  induction places generalizing remembered last with
  | nil => simp [firstRunnable]
  | cons first rest ih =>
    rw [firstRunnable]
    rcases loaded : v.load d first with e | image'
    · dsimp only
      rw [ih]
      constructor
      · rintro ⟨before, place, after, rfl, stops⟩
        refine ⟨first :: before, place, after, rfl, ?_, stops.loaded⟩
        rw [List.forall_mem_cons, loaded]
        exact ⟨rfl, stops.passed⟩
      · rintro ⟨_ | ⟨other, before⟩, place, after, same, stops⟩
        · cases same
          cases loaded.symm.trans stops.loaded
        · cases same
          exact ⟨before, place, after, rfl, (List.forall_mem_cons.mp stops.passed).2, stops.loaded⟩
    · dsimp only
      constructor
      · intro same
        cases same
        exact ⟨[], first, rest, rfl, nofun, loaded⟩
      · rintro ⟨_ | ⟨other, before⟩, place, after, same, stops⟩
        · cases same
          rw [← stops.loaded, loaded]
        · cases same
          have passed := (List.forall_mem_cons.mp stops.passed).1
          rw [loaded] at passed
          cases passed

/-- What runs is at the first place of the search path that does. -/
theorem image_eq_ok_iff :
    l.image v = .ok image ↔
      ∃ before place after, l.places = before ++ place :: after ∧
        StopsAt v l.directory before place image :=
  firstRunnable_eq_ok_iff

/-- A command that is an absolute path is looked for nowhere else. -/
theorem load_of_isAbsolute (started : l.start v = .ok image)
    (absolute : (Path.ofString l.command).IsAbsolute) :
    ∃ directory, v.load directory l.command = .ok image := by
  have slash : l.command.toList.contains '/' = true :=
    List.contains_iff_mem.mpr (List.mem_of_mem_head? (Path.isAbsolute_ofString_iff.mp absolute))
  have alone : l.places = [l.command] := by
    unfold places
    rw [if_pos slash]
  obtain ⟨-, directory, -, found⟩ := start_eq_ok_iff.mp started
  obtain ⟨before, place, after, split, stops⟩ := image_eq_ok_iff.mp found
  change l.places = _ at split
  rw [alone] at split
  obtain ⟨-, here⟩ | ⟨-, none⟩ := List.singleton_eq_append_iff.mp split
  · cases here
    exact ⟨directory, stops.loaded⟩
  · cases none

/-- A search over places that are spelled from the root stops at the same one from everywhere. -/
theorem StopsAt.of_isAnchored (stops : StopsAt v d before place image)
    (anchored : ∀ other ∈ before ++ [place],
      v.isAnchored (Volume.interpreterLimit + 1) other = true)
    (d' : Loc) : StopsAt v d' before place image := by
  have same (other : String) (among : other ∈ before ++ [place]) :
      (v.load d other).toOption = (v.load d' other).toOption :=
    Volume.loadWith_of_isAnchored (anchored other among) d d'
  refine ⟨fun other among => ?_, toOption_eq_some_iff.mp ?_⟩
  · rw [← same other (List.mem_append_left _ among)]
    exact stops.passed other among
  · rw [← same place (List.mem_append_right _ (.head _)), stops.loaded]
    rfl

end TexBuild.Launch
