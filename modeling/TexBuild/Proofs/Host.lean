import TexBuild.Build.Directory
import TexBuild.Proofs.Volume.Resolution

namespace TexBuild

namespace Volume

/-- The names of a path that the system does not take are never looked up, since the links before them
come to no end: they lead round in a circle, and two dots take all such names back that are kept behind
it, or too many of them lie within one another. -/
def Skips (v : Volume) (cwd : Loc) (room : Nat) (p : Path) : Prop :=
  match v.followPath cwd room (fitPart p) with
  | .ok _ => False
  | .error (.circle path) => isClean (path.join ⟨.here, unfitPart p⟩).flattened = true
  | .error .deep => True

variable {v : Volume} {cwd : Loc} {room : Nat} {p : Path}

/-- Only a name that the system does not take keeps links from being followed or refused. -/
theorem target_refuses_iff :
    (∀ f, v.target cwd room p = .error f → f.isRefusal = true) ↔
      isClean p = true ∨ v.Skips cwd room p := by
  rw [← unfitPart_eq_nil_iff]
  unfold target Skips
  cases v.followPath cwd room (fitPart p) with
  | ok s =>
    cases unfitPart p with
    | nil => exact iff_of_true (fun f failed => by cases failed) (.inl rfl)
    | cons n left =>
      refine iff_of_false (fun refuses => ?_) (fun reads => reads.elim nofun id)
      exact absurd (refuses _ rfl) (by simp)
  | error halt =>
    cases halt with
    | deep => exact iff_of_true (fun f failed => by cases failed; rfl) (.inr trivial)
    | circle path =>
      dsimp only
      by_cases read : unfitPart p = [] ∨ isClean (path.join ⟨.here, unfitPart p⟩).flattened = true
      · rw [if_pos read]
        exact iff_of_true (fun f failed => by cases failed) read
      · rw [if_neg read]
        refine iff_of_false (fun refuses => ?_) read
        exact absurd (refuses _ rfl) (by simp)

theorem canonical_refuses_iff :
    (∀ f, v.canonical cwd room p = .error f → f.isRefusal = true) ↔
      isClean p = true ∨ v.Skips cwd room p := by
  rw [← target_refuses_iff, canonical_eq]
  cases v.target cwd room p with
  | error f => exact Iff.rfl
  | ok q =>
    refine iff_of_true (fun f failed => ?_) fun f failed => by cases failed
    change (if _ then _ else _) = _ at failed
    split at failed
    · cases failed
      rfl
    · split at failed <;> cases failed
      rfl

end Volume

namespace Host

/-- A path can be read: the name of a user behind a tilde is fit for the system, and so are the names
that are looked up of the path with the home directory for the tilde. -/
structure Fits (h : Host) (p : Path) : Prop where
  account : ∀ name, account? p = some name → Text.isFit name = true
  path : ∀ q, h.expandUser p = .ok q →
    Volume.isClean q = true ∨ h.volume.Skips h.cwd h.stack.links q

/-- The directory for builds that is asked for, if one is. -/
def given? (h : Host) : Option Path → Option Path
  | some p => some p
  | none =>
    match h.environment.get? "BUILD_DIR" with
    | some text => if text = "" then none else some (Path.ofString text)
    | none => none

/-- The system tells what a path leads to, or that it leads nowhere. -/
def Answers (h : Host) (p : Path) : Prop :=
  Volume.isClean p = true → ∀ e, h.volume.find h.cwd p.text = .error e → Volume.isAbsence e = true

variable {h : Host} {p : Path} {f : Fault}

theorem homeText_eq_error {name : List Char} (failed : h.homeText name = .error f) :
    Text.isFit name ≠ true ∧ f = .unfit (String.ofList name) := by
  unfold homeText at failed
  by_cases own : name = []
  · rw [if_pos own] at failed
    cases failed
  · rw [if_neg own] at failed
    by_cases fit : Text.isFit name = true
    · rw [if_pos fit] at failed
      cases failed
    · rw [if_neg fit] at failed
      cases failed
      exact ⟨fit, rfl⟩

theorem homeText_of_not_isFit {name : List Char} (unfit : Text.isFit name ≠ true) :
    h.homeText name = .error (.unfit (String.ofList name)) := by
  have other : name ≠ [] := by
    rintro rfl
    exact unfit rfl
  unfold homeText
  rw [if_neg other, if_neg unfit]

theorem homePath_eq_error {home : Option String} (failed : homePath home = .error f) :
    f = .unknownHome := by
  unfold homePath at failed
  split at failed
  · cases failed
    rfl
  · split at failed
    · cases failed
      rfl
    · cases failed

/-- A tilde is not read because there is no home for it, or the name behind it is not fit. -/
theorem expandUser_eq_error (failed : h.expandUser p = .error f) :
    f = .unknownHome ∨
      ∃ name, account? p = some name ∧ Text.isFit name ≠ true ∧ f = .unfit (String.ofList name) := by
  unfold expandUser at failed
  cases named : account? p with
  | none =>
    rw [named] at failed
    cases failed
  | some name =>
    rw [named] at failed
    obtain unread | ⟨home, -, unread⟩ := bind_eq_error_iff.mp failed
    · exact .inr ⟨name, rfl, homeText_eq_error unread⟩
    · obtain unknown | ⟨base, -, returned⟩ := bind_eq_error_iff.mp unread
      · exact .inl (homePath_eq_error unknown)
      · cases returned

/-- Only an unfit path keeps a path from being resolved or refused. -/
theorem resolve_refuses_iff :
    (∀ f, h.resolve p = .error f → f.isRefusal = true) ↔ h.Fits p := by
  unfold resolve
  constructor
  · intro refuses
    constructor
    · intro name named
      refine Decidable.byContradiction fun unfit => ?_
      have failed : h.expandUser p = .error (.unfit (String.ofList name)) := by
        unfold expandUser
        rw [named]
        exact bind_eq_error_iff.mpr (.inl (homeText_of_not_isFit unfit))
      exact absurd (refuses _ (bind_eq_error_iff.mpr (.inl failed))) (by simp)
    · intro q expanded
      exact Volume.canonical_refuses_iff.mp fun f failed =>
        refuses f (bind_eq_error_iff.mpr (.inr ⟨q, expanded, failed⟩))
  · intro fits f failed
    obtain unread | ⟨q, expanded, failed⟩ := bind_eq_error_iff.mp failed
    · obtain rfl | ⟨name, named, unfit, -⟩ := expandUser_eq_error unread
      · rfl
      · exact absurd (fits.account name named) unfit
    · exact Volume.canonical_refuses_iff.mpr (fits.path q expanded) f failed

theorem buildDirectoryBelow_eq_error {roots : List String}
    (failed : h.buildDirectoryBelow roots = .error f) : f.isRefusal = true := by
  unfold buildDirectoryBelow at failed
  split at failed
  · cases failed
  · unfold temporaryDirectory at failed
    split at failed <;> cases failed
    rfl

theorem buildDirectoryBelow_refuses {roots : List String} :
    (∀ f, h.buildDirectoryBelow roots = .error f → f.isRefusal = true) ↔
      ∀ q, none = some q → h.Fits q := by
  constructor
  · intro _ q asked
    cases asked
  · exact fun _ f failed => buildDirectoryBelow_eq_error failed

theorem buildDirectory_refuses_iff {directory : Option Path} :
    (∀ f, h.buildDirectory directory = .error f → f.isRefusal = true) ↔
      ∀ q, h.given? directory = some q → h.Fits q := by
  cases directory with
  | some q =>
    rw [buildDirectory, resolve_refuses_iff]
    simp [given?]
  | none =>
    rw [buildDirectory, defaultBuildDirectory, given?]
    cases h.environment.get? "BUILD_DIR" with
    | none => exact buildDirectoryBelow_refuses
    | some text =>
      dsimp only
      by_cases empty : text = ""
      · rw [if_pos empty, if_pos empty]
        exact buildDirectoryBelow_refuses
      · rw [if_neg empty, if_neg empty, resolve_refuses_iff]
        simp

theorem isFile_answers_iff : (∀ cause, h.isFile p ≠ .error cause) ↔ h.Answers p := by
  unfold isFile Answers
  by_cases clean : Volume.isClean p = true
  · rw [if_pos clean, Volume.isRegular]
    rcases h.volume.find h.cwd p.text with e | ⟨loc, e⟩
    · cases absent : Volume.isAbsence e <;> simp [clean, absent]
    · cases e <;> simp
  · simp [clean]

end Host

end TexBuild
