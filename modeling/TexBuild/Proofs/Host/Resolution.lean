import TexBuild.Proofs.Host
import TexBuild.Proofs.Volume.Removal
import TexBuild.Proofs.Volume.Resolution

namespace TexBuild

namespace Host

/-- The host with nothing at a place. -/
def without (h : Host) (loc : Loc) : Host :=
  { h with volume := h.volume.erase loc }

/-- A path, read with the home directory for a tilde, comes upon the link at a place. -/
def Passes (h : Host) (p : Path) (l : Loc) : Prop :=
  ∃ q, h.expandUser p = .ok q ∧ h.volume.Passes h.cwd q.text l

/-- A path leads to a place, or over the link that stands there. -/
def Uses (h : Host) (p : Path) (loc : Loc) : Prop :=
  h.volume.Passes h.cwd p.text loc ∨ ∃ e, h.volume.find h.cwd p.text = .ok (loc, e)

variable {h : Host} {spare : Loc} {p q : Path}

/-- A path is resolved to an absolute one. -/
theorem isAbsolute_of_resolve (resolved : h.resolve p = .ok q) : q.IsAbsolute := by
  obtain ⟨expanded, -, canonical⟩ := bind_eq_ok_iff.mp resolved
  exact Volume.isAbsolute_of_target (Volume.canonical_eq_ok_iff.mp canonical).1

theorem resolve_without (leaf : h.volume.IsLeaf spare) (elsewhere : h.cwd ≠ spare)
    (given : ¬ h.Passes p spare) (resolved : ¬ h.volume.Passes h.cwd q.text spare)
    (found : h.resolve p = .ok q) : (h.without spare).resolve p = .ok q := by
  obtain ⟨p', expanded, canonical⟩ := bind_eq_ok_iff.mp found
  have apart : ¬ h.volume.Passes h.cwd p'.text spare := fun passes => given ⟨p', expanded, passes⟩
  exact bind_eq_ok_iff.mpr
    ⟨p', expanded, Volume.canonical_erase leaf apart resolved elsewhere canonical⟩

theorem isUsable_iff :
    h.isUsable p = true ↔
      ∃ loc e, h.volume.find h.cwd p.text = .ok (loc, e) ∧ h.volume.changeable loc = .ok () := by
  unfold isUsable
  rcases h.volume.find h.cwd p.text with x | ⟨loc, e⟩
  · simp
  · cases changeable : h.volume.changeable loc <;> simp [changeable, Except.toBool]

/-- No directory becomes usable when an entry is gone. -/
theorem isUsable_of_without (leaf : h.volume.IsLeaf spare)
    (usable : (h.without spare).isUsable p = true) : h.isUsable p = true := by
  obtain ⟨loc, e, found, changeable⟩ := isUsable_iff.mp usable
  obtain ⟨found, other, -⟩ := (Volume.find_erase_eq_ok_iff leaf).mp found
  exact isUsable_iff.mpr
    ⟨loc, e, found, (Volume.changeable_erase_of_ne other).symm.trans changeable⟩

theorem isUsable_without (leaf : h.volume.IsLeaf spare)
    (apart : ¬ h.volume.Passes h.cwd p.text spare) (usable : h.isUsable p = true) :
    (h.without spare).isUsable p = true := by
  obtain ⟨loc, e, found, changeable⟩ := isUsable_iff.mp usable
  have other : loc ≠ spare := by
    rintro rfl
    obtain ⟨mode, there⟩ := Volume.get?_of_changeable changeable
    obtain ⟨e', there', plain⟩ := leaf
    rw [there] at there'
    exact plain mode (Option.some.inj there').symm
  exact isUsable_iff.mpr ⟨loc, e, Volume.find_erase_of_ne leaf apart found other,
    (Volume.changeable_erase_of_ne other).trans changeable⟩

theorem temporaryDirectory_without (leaf : h.volume.IsLeaf spare)
    (apart : ¬ h.volume.Passes h.cwd p.text spare) (found : h.temporaryDirectory = .ok p) :
    (h.without spare).temporaryDirectory = .ok p := by
  unfold temporaryDirectory at found ⊢
  have same : (h.without spare).temporaryCandidates = h.temporaryCandidates := rfl
  rw [same]
  cases first : h.temporaryCandidates.find? h.isUsable with
  | none => rw [first] at found; cases found
  | some p' =>
    rw [first] at found
    cases found
    obtain ⟨usable, before, after, parts, refused⟩ := List.find?_eq_some_iff_append.mp first
    have still : h.temporaryCandidates.find? (h.without spare).isUsable = some p := by
      refine List.find?_eq_some_iff_append.mpr
        ⟨isUsable_without leaf apart usable, before, after, parts, fun q among => ?_⟩
      have unusable := refused q among
      rw [Bool.not_eq_true'] at unusable ⊢
      exact Bool.eq_false_iff.mpr fun usable' => by
        rw [isUsable_of_without leaf usable'] at unusable
        cases unusable
    rw [still]

theorem buildDirectory_without {directory : Option Path} (leaf : h.volume.IsLeaf spare)
    (elsewhere : h.cwd ≠ spare) (given : ∀ p, h.given? directory = some p → ¬ h.Passes p spare)
    (resolved : ¬ h.volume.Passes h.cwd q.text spare)
    (found : h.buildDirectory directory = .ok q) :
    (h.without spare).buildDirectory directory = .ok q := by
  have below {roots : List String} (found : h.buildDirectoryBelow roots = .ok q) :
      (h.without spare).buildDirectoryBelow roots = .ok q := by
    unfold buildDirectoryBelow at found ⊢
    cases absolute : roots.find? fun root => root.toList.head? = some '/' with
    | some root => rwa [absolute] at found
    | none =>
      rw [absolute] at found
      obtain ⟨p, temporary, joined⟩ := bind_eq_ok_iff.mp found
      cases joined
      have relative : Path.ofString (programName ++ "/build") =
          ⟨.here, [⟨"ResumeIDE", by decide⟩, ⟨"build", by decide⟩]⟩ := by decide
      have apart : ¬ h.volume.Passes h.cwd p.text spare := fun passes =>
        resolved (passes.join (by rw [relative]) (by rw [relative]; exact List.cons_ne_nil _ _))
      exact bind_eq_ok_iff.mpr ⟨p, temporaryDirectory_without leaf apart temporary, rfl⟩
  cases directory with
  | some p => exact resolve_without leaf elsewhere (given p rfl) resolved found
  | none =>
    unfold buildDirectory defaultBuildDirectory at found ⊢
    unfold given? at given
    have same : (h.without spare).environment = h.environment := rfl
    rw [same]
    cases named : h.environment.get? "BUILD_DIR" with
    | none =>
      rw [named] at found
      exact below found
    | some text =>
      rw [named] at found given
      dsimp only at found given ⊢
      by_cases empty : text = ""
      · rw [if_pos empty] at found ⊢
        exact below found
      · rw [if_neg empty] at found given ⊢
        exact resolve_without leaf elsewhere (given _ rfl) resolved found

end Host

end TexBuild
