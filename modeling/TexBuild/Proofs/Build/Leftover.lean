import TexBuild.Proofs.Build.Delivery
import TexBuild.Proofs.Host.Resolution

namespace TexBuild

namespace Host

theorem isFile_without {h : Host} {p : Path} {spare : Loc} (leaf : h.volume.IsLeaf spare)
    (apart : ¬ h.Uses p spare) : (h.without spare).isFile p = h.isFile p := by
  obtain ⟨apart, other⟩ := not_or.mp apart
  have same := Volume.isRegular_erase leaf apart fun e found => other ⟨e, found⟩
  unfold isFile
  rw [← same]
  rfl

end Host

/-- Where the document of a build would lie, if the directory in which the engine works is
there. -/
def Plan.spot? (p : Plan) (h : Host) : Option Loc :=
  match h.volume.find h.cwd p.directory.text with
  | .ok (loc, .directory _) => some (artifactName p.source :: loc)
  | _ => none

/-- The session as it would be if no earlier build had left a document. -/
def Plan.spared (p : Plan) (s : Session) : Session :=
  match p.spot? s.host with
  | some loc => s.withVolume (s.host.volume.erase loc)
  | none => s

theorem artifactName_ne_up (source : Path) : artifactName source ≠ Name.up := by
  have long : Name.up.chars.length < (artifactName source).chars.length := by
    have suffixed : ∃ stem, (artifactName source).chars = stem ++ artifactSuffix := by
      unfold artifactName
      split <;> exact ⟨_, String.toList_ofList⟩
    obtain ⟨stem, spelled⟩ := suffixed
    rw [spelled, List.length_append]
    exact Nat.lt_add_left _ (by decide)
  intro same
  rw [same] at long
  exact Nat.lt_irrefl _ long

namespace Builder

variable {b : Builder} {x : Programs} {probe : Probe} {relocate : Relocation}
  {source source' : Path} {s s₀ s₁ t : Session} {pr pr₀ : Progress} {p : Plan}

/-- What an earlier build has left at a place is in nobody's way: it is no directory and not the
one at hand, and no path of the build leads to it or over it. -/
structure Aside (b : Builder) (source : Path) (p : Plan) (h : Host) (loc : Loc) : Prop where
  plain : ∀ mode, h.volume.get? loc ≠ some (.directory mode)
  elsewhere : h.cwd ≠ loc
  given : ¬ h.Passes source loc
  asked : ∀ q, h.given? b.directory = some q → ¬ h.Passes q loc
  apart : ∀ q ∈ [p.source, p.directory, p.destination], ¬ h.Uses q loc

theorem aside_of_file {h : Host} {loc : Loc} {id : Nat} (left : h.volume.get? loc = some (.file id))
    (elsewhere : h.cwd ≠ loc)
    (apart : ∀ q ∈ [p.source, p.directory, p.destination],
      (h.volume.find h.cwd q.text).toOption.map Prod.fst ≠ some loc) :
    b.Aside source p h loc := by
  have noLink {cwd : Loc} {place : Volume.Standpoint} {steps : List Step} :
      ¬ h.volume.Meets cwd place steps loc := by
    intro meets
    obtain ⟨target, link⟩ := meets.exists_link
    rw [left] at link
    cases link
  refine ⟨fun mode directory => ?_, elsewhere, fun passes => ?_, fun q _ passes => ?_,
    fun q among uses => ?_⟩
  · rw [left] at directory
    cases directory
  · obtain ⟨_, -, meets⟩ := passes
    exact noLink meets
  · obtain ⟨_, -, meets⟩ := passes
    exact noLink meets
  · obtain meets | ⟨e, found⟩ := uses
    · exact noLink meets
    · exact apart q among (by rw [found]; rfl)

theorem planAt_without {h : Host} {spare : Loc} (leaf : h.volume.IsLeaf spare)
    (aside : b.Aside source p h spare) (paths : b.planAt h source = .ok p) :
    b.planAt (h.without spare) source = .ok p := by
  rw [planAt_eq_ok_iff] at paths ⊢
  have resolved := (not_or.mp (aside.apart p.source (.head _))).1
  have directory := (not_or.mp (aside.apart p.directory (.tail _ (.head _)))).1
  exact ⟨Host.resolve_without leaf aside.elsewhere aside.given resolved paths.1,
    Host.buildDirectory_without leaf aside.elsewhere aside.asked directory paths.2⟩

theorem reaches_prepared (paths : b.planAt s.host source = .ok p)
    (there : s.host.volume.isDirectory s.host.cwd p.directory.text = true) :
    b.Reaches x probe relocate source s (.prepared p)
      (s.telling (Report.start p.source p.directory)) :=
  (Reaches.begun.next (.plan paths)).next
    (.prepare (Volume.makeDirectories_of_isDirectory there))

/-- Two builds that come to the same stage in the same session go on alike. -/
theorem Reaches.carry (here : b.Reaches x probe relocate source s pr₀ s₀)
    (there : b.Reaches x probe relocate source' t pr₀ s₀)
    (reach : b.Reaches x probe relocate source s pr s₁) (later : pr₀.number ≤ pr.number) :
    b.Reaches x probe relocate source' t pr s₁ := by
  induction reach with
  | begun =>
    obtain ⟨rfl, rfl⟩ := here.unique .begun (Nat.le_zero.mp later)
    exact there
  | @next pr pr' s₁ s₂ before onward ih =>
    have number := onward.number_eq
    by_cases last : pr₀.number = pr'.number
    · obtain ⟨rfl, rfl⟩ := here.unique (before.next onward) last
      exact there
    · exact (ih (by omega)).next onward

theorem runOn_build_eq_of_reaches (here : b.Reaches x probe relocate source s pr₀ s₀)
    (there : b.Reaches x probe relocate source' t pr₀ s₀) (timing : t.timing = s.timing) :
    (b.build x probe relocate source).runOn s = (b.build x probe relocate source').runOn t := by
  have ends : b.Ends x probe relocate source s _ := ends_build
  generalize (b.build x probe relocate source).runOn s = o at ends ⊢
  cases ends with
  | last reach takes result =>
    have later := reach.number_le_of_last takes result here
    rw [← timing] at result
    exact (ends_iff.mp (.last (here.carry there reach later) takes result)).symm

/-- What is told about the result of a build, whose log must be readable for that. -/
def reported (b : Builder) (source : Path) (r : BuildResult) : Except Fault (List Notice) := do
  let ds ← findings r.rawLog
  (Report.result source.nameText r ds b.verbose).mapError Fault.span

theorem runOn_compile :
    (b.compile x probe relocate source).runOn s =
      match (b.build x probe relocate source).runOn s with
      | (.error f, s') => (.error f, s')
      | (.ok r, s') =>
        match b.reported source r with
        | .error f => (.error f, s')
        | .ok notices => (.ok r, s'.telling notices) := by
  unfold compile reported
  rw [Act.runOn_bind]
  rcases (b.build x probe relocate source).runOn s with ⟨f | r, s'⟩
  · rfl
  dsimp only
  rw [Act.runOn_bind, Act.runOn_ofExcept]
  rcases findings r.rawLog with f | ds
  · rfl
  dsimp only
  rw [Act.runOn_bind, Act.runOn_ofExcept]
  change _ = match (Report.result source.nameText r ds b.verbose).mapError Fault.span with
    | .error f => (Except.error f, s')
    | .ok notices => (Except.ok r, s'.telling notices)
  rcases (Report.result source.nameText r ds b.verbose).mapError Fault.span with f | notices <;> rfl

theorem reported_of_silent (b : Builder) (source : Path) {r : BuildResult} (silent : r.rawLog = "")
    {timing : Timing} (timed : r.duration = timing.elapsed) :
    ∃ notices, b.reported source r = .ok notices := by
  have read : findings r.rawLog = .ok [] := by
    rw [silent]
    rfl
  obtain ⟨notices, told⟩ := report_eq_ok source.nameText r [] b.verbose timed
  exact ⟨notices, by rw [reported, read]; exact congrArg (Except.mapError Fault.span) told⟩

theorem host_compile :
    ((b.compile x probe relocate source).runOn s).2.host =
        ((b.build x probe relocate source).runOn s).2.host ∧
      ((b.compile x probe relocate source).runOn s).2.asked =
        ((b.build x probe relocate source).runOn s).2.asked := by
  rw [runOn_compile]
  rcases (b.build x probe relocate source).runOn s with ⟨f | r, s'⟩
  · exact ⟨rfl, rfl⟩
  · dsimp only
    cases b.reported source r <;> exact ⟨rfl, rfl⟩

/-- What no change of the volume touches holds after a build, too. -/
theorem keeps_compile {P : Host → Prop} (volumes : ∀ h v, P h → P { h with volume := v })
    (probes : ∀ command, Act.Keeps P (probe command))
    (relocates : ∀ built destination, Act.Keeps P (relocate built destination)) :
    Act.Keeps P (b.compile x probe relocate source) := by
  intro s held
  rw [host_compile.1]
  have ends : b.Ends x probe relocate source s _ := ends_build
  generalize (b.build x probe relocate source).runOn s = o at ends ⊢
  cases ends with
  | last reach takes _ =>
    exact takes.steady volumes probes relocates (reach.steady volumes probes relocates held)

theorem compile_fst_congr
    (same : ((b.build x probe relocate source).runOn s).1 =
      ((b.build x probe relocate source).runOn t).1) :
    ((b.compile x probe relocate source).runOn s).1 =
      ((b.compile x probe relocate source).runOn t).1 := by
  rw [runOn_compile, runOn_compile]
  generalize (b.build x probe relocate source).runOn s = here,
    (b.build x probe relocate source).runOn t = there at same
  obtain ⟨o, s'⟩ := here
  obtain ⟨o', t'⟩ := there
  cases same
  cases o with
  | error f => rfl
  | ok r =>
    dsimp only
    cases b.reported source r <;> rfl

/-- What an earlier build has left makes no difference once it is removed, nor where the build
fails before; where it cannot be removed, that is the failure. -/
theorem build_spared (x : Programs) (probe : Probe) (relocate : Relocation) {spare : Loc}
    (paths : b.planAt s.host source = .ok p) (place : p.spot? s.host = some spare)
    (leaf : s.host.volume.IsLeaf spare) (aside : b.Aside source p s.host spare) :
    let t := s.withVolume (s.host.volume.erase spare)
    let told := Report.start p.source p.directory
    (b.build x probe relocate source).runOn s = (b.build x probe relocate source).runOn t ∨
      (∃ o, (b.build x probe relocate source).runOn s = (o, s.telling told) ∧
        (b.build x probe relocate source).runOn t = (o, t.telling told)) ∨
      ∃ e, s.host.volume.unlink s.host.cwd p.artifact.text = .error e ∧ e ≠ .noEntry ∧
        (b.build x probe relocate source).runOn s =
          (.ok ((Problem.stale p.artifact (.about e p.artifact.text)).result "" s.timing.elapsed),
            s.telling told) := by
  intro t told
  obtain ⟨directory, mode, found, rfl⟩ : ∃ directory mode,
      s.host.volume.find s.host.cwd p.directory.text = .ok (directory, .directory mode) ∧
        spare = artifactName p.source :: directory := by
    unfold Plan.spot? at place
    split at place
    · exact ⟨_, _, ‹_›, (Option.some.inj place).symm⟩
    · cases place
  have apart := (not_or.mp (aside.apart p.directory (.tail _ (.head _)))).1
  have inner : directory ≠ artifactName p.source :: directory :=
    fun same => absurd (congrArg List.length same) (by simp)
  have prepared : b.Reaches x probe relocate source s (.prepared p) (s.telling told) :=
    reaches_prepared paths (Volume.isDirectory_iff.mpr ⟨_, _, found⟩)
  have prepared' : b.Reaches x probe relocate source t (.prepared p) (t.telling told) :=
    reaches_prepared (planAt_without leaf aside paths) (Volume.isDirectory_iff.mpr
      ⟨_, _, Volume.find_erase_of_ne leaf apart found inner⟩)
  have same : t.host.isFile p.source = s.host.isFile p.source :=
    Host.isFile_without leaf (aside.apart p.source (.head _))
  rcases there : s.host.isFile p.source with cause | _ | _
  · exact .inr (.inl ⟨_, ends_iff.mp (.last prepared (.sourceBroken there) rfl),
      ends_iff.mp (.last prepared' (.sourceBroken (same.trans there)) rfl)⟩)
  · exact .inr (.inl ⟨_, ends_iff.mp (.last prepared (.sourceMissing there) rfl),
      ends_iff.mp (.last prepared' (.sourceMissing (same.trans there)) rfl)⟩)
  -- so far both builds have only looked at paths; the removal now makes one session of the two
  have sourced := prepared.next (.source there)
  have sourced' := prepared'.next (.source (same.trans there))
  obtain ⟨removed, absent⟩ | ⟨e, refused, present⟩ :=
    Volume.unlink_child (artifactName_ne_up p.source) found leaf apart
  · exact .inl (runOn_build_eq_of_reaches (sourced.next (.clear removed))
      (sourced'.next (.clearNothing absent)) rfl)
  · exact .inr (.inr ⟨e, refused, present,
      ends_iff.mp (.last sourced (.clearRefused refused present) rfl)⟩)

end Builder

/-- One build: how it is made, the programs that it starts, and its source. -/
structure Job where
  builder : Builder
  programs : Programs
  probe : Probe
  relocate : Relocation
  source : Path

namespace Job

/-- Makes a build. -/
def run (j : Job) (s : Session) : Except Fault BuildResult × Session :=
  (j.builder.compile j.programs j.probe j.relocate j.source).runOn s

/-- The session after some builds, one after another. -/
def after (jobs : List Job) (s : Session) : Session :=
  jobs.foldl (fun s j => (j.run s).2) s

/-- After whatever builds, a build gives the same and leaves the same beside its source as if no
earlier one had left a document in its directory, or fails because that cannot be removed. -/
theorem run_spared (earlier : List Job) (first : Session) (j : Job) (p : Plan) :
    let s := after earlier first
    j.builder.planAt s.host j.source = .ok p →
      (∀ loc, p.spot? s.host = some loc → j.builder.Aside j.source p s.host loc) →
      ((j.run s).1 = (j.run (p.spared s)).1 ∧
          (j.run s).2.host.volume.bytesAt? (j.run s).2.host.cwd p.destination.text =
            (j.run (p.spared s)).2.host.volume.bytesAt? (j.run (p.spared s)).2.host.cwd
              p.destination.text) ∨
        ∃ e, s.host.volume.unlink s.host.cwd p.artifact.text = .error e ∧ e ≠ .noEntry ∧
          (j.run s).1 =
            .ok ((Problem.stale p.artifact (.about e p.artifact.text)).result "" s.timing.elapsed) ∧
          (j.run s).2.host = s.host ∧ (j.run s).2.asked = s.asked := by
  intro s paths aside
  clear_value s
  unfold Plan.spared
  cases place : p.spot? s.host with
  | none => exact .inl ⟨rfl, rfl⟩
  | some spare =>
  dsimp only
  have aside := aside spare place
  cases there : s.host.volume.get? spare with
  | none =>
    rw [Volume.erase_of_get?_eq_none there]
    exact .inl ⟨rfl, rfl⟩
  | some e =>
  have leaf : s.host.volume.IsLeaf spare :=
    ⟨e, there, fun mode directory => aside.plain mode (directory ▸ there)⟩
  unfold run
  obtain same | ⟨o, here, spared⟩ | ⟨e, refused, present, here⟩ :=
    Builder.build_spared j.programs j.probe j.relocate paths place leaf aside
  · rw [Builder.runOn_compile, Builder.runOn_compile, same]
    exact .inl ⟨rfl, rfl⟩
  · refine .inl ⟨Builder.compile_fst_congr (by rw [here, spared]), ?_⟩
    rw [Builder.host_compile.1, Builder.host_compile.1, here, spared]
    obtain ⟨apart, other⟩ := not_or.mp (aside.apart p.destination (.tail _ (.tail _ (.head _))))
    exact (Volume.bytesAt?_erase leaf apart fun e found => other ⟨e, found⟩).symm
  · refine .inr ⟨e, refused, present, ?_, ?_, ?_⟩
    · obtain ⟨notices, told⟩ := j.builder.reported_of_silent j.source
        (r := (Problem.stale p.artifact (.about e p.artifact.text)).result "" s.timing.elapsed) rfl rfl
      rw [Builder.runOn_compile, here]
      dsimp only
      rw [told]
    · rw [Builder.host_compile.1, here]
      rfl
    · rw [Builder.host_compile.2, here]
      rfl

/-- An engine that writes nothing, leaves nothing and ends. -/
def idle : Programs where
  answers := fun _ _ _ v => (true, v)
  shows := fun _ _ _ v =>
    ⟨[.started, .ended (.code 0), .reaped, .hungUp .stdout, .hungUp .stderr, .read .stdout 8,
        .read .stderr 8], v⟩

/-- The build of the source on the desk. -/
def deskJob (x : Programs) : Job :=
  ⟨Builder.deskBuilder, x, x.probe (.whole 5), place, Path.ofString "/s/cv.tex"⟩

/-- The paths of the build on the desk. -/
def deskPlan : Plan :=
  ⟨Path.ofString "/s/cv.tex", Path.ofString "/b"⟩

/-- Where that build has its document before it is brought to its place. -/
def deskSpot : Loc :=
  (Path.ofString "/b/cv.pdf").names.reverse

theorem steady_after {P : Host → Prop} (volumes : ∀ h v, P h → P { h with volume := v })
    (jobs : List Job) (probes : ∀ j ∈ jobs, ∀ command, Act.Keeps P (j.probe command))
    (relocates : ∀ j ∈ jobs, ∀ built destination, Act.Keeps P (j.relocate built destination))
    {s : Session} (held : P s.host) : P (after jobs s).host := by
  induction jobs generalizing s with
  | nil => exact held
  | cons j jobs ih =>
    refine ih (fun j' among => probes j' (.tail _ among))
      (fun j' among => relocates j' (.tail _ among)) ?_
    exact Builder.keeps_compile volumes (probes j (.head _)) (relocates j (.head _)) s held

theorem host_after_deskJob :
    (after [deskJob Builder.greeting] Builder.desk).host =
      { Builder.desk.host with
        volume := (Builder.desk.host.volume.putFile deskSpot ⟨[37], 0o644⟩).putFile
          [⟨"cv.pdf", by decide⟩, ⟨"s", by decide⟩] ⟨[37], 0o644⟩ } := by
  have volume : (after [deskJob Builder.greeting] Builder.desk).host.volume =
      (Builder.desk.host.volume.putFile deskSpot ⟨[37], 0o644⟩).putFile
        [⟨"cv.pdf", by decide⟩, ⟨"s", by decide⟩] ⟨[37], 0o644⟩ := by decide +kernel
  have steady := steady_after (P := fun h => h = { Builder.desk.host with volume := h.volume })
      (fun h v held => by rw [held]) [deskJob Builder.greeting]
      (List.forall_mem_singleton.mpr fun command => by
        dsimp only [deskJob]
        exact Programs.keeps_probe command fun launch image h held => by rw [held])
      (List.forall_mem_singleton.mpr (Builder.keeps_place fun h v held => by rw [held]))
      (s := Builder.desk) rfl
  rw [steady, volume]

theorem run_spared_desk :
    let j := deskJob Builder.greeting
    let s := after [j] Builder.desk
    s.host.volume.get? deskSpot = some (.file 2) ∧
      (j.run s).1 = (j.run (deskPlan.spared s)).1 := by
  have host := host_after_deskJob
  have spared := run_spared [deskJob Builder.greeting] Builder.desk (deskJob Builder.greeting)
    deskPlan
  dsimp only at spared ⊢
  generalize after [deskJob Builder.greeting] Builder.desk = s at host spared ⊢
  have left : s.host.volume.get? deskSpot = some (.file 2) := by
    rw [host]
    decide +kernel
  have paths : Builder.deskBuilder.planAt s.host (Path.ofString "/s/cv.tex") = .ok deskPlan := by
    rw [host]
    exact Builder.planAt_eq_ok_iff.mpr ⟨toOption_eq_some_iff.mp (by decide +kernel),
      toOption_eq_some_iff.mp (by decide +kernel)⟩
  have spot : deskPlan.spot? s.host = some deskSpot := by
    rw [host]
    decide +kernel
  have aside : Builder.deskBuilder.Aside (Path.ofString "/s/cv.tex") deskPlan s.host deskSpot := by
    refine Builder.aside_of_file left ?_ ?_ <;>
    · rw [host]
      decide +kernel
  refine ⟨left, ((spared paths fun loc place => ?_).resolve_right ?_).1⟩
  · cases spot.symm.trans place
    exact aside
  · rintro ⟨e, refused, -⟩
    have removed : (s.host.volume.unlink s.host.cwd deskPlan.artifact.text).toOption.isSome := by
      rw [host]
      decide +kernel
    rw [refused] at removed
    cases removed

/-- What cannot be removed makes the difference between two kinds of failure. -/
theorem run_spared_locked :
    let j := deskJob idle
    let s := Builder.desk.withVolume
      ((Builder.desk.host.volume.put [⟨"b", by decide⟩] (.directory 0o555)).putFile deskSpot
        ⟨[37], 0o644⟩)
    j.builder.planAt s.host j.source = .ok deskPlan ∧ deskPlan.spot? s.host = some deskSpot ∧
      j.builder.Aside j.source deskPlan s.host deskSpot ∧
      (j.run s).1.toOption.bind BuildResult.failure? = some .environment ∧
      (j.run (deskPlan.spared s)).1.toOption.bind BuildResult.failure? = some .compilation := by
  intro j s
  have spot : deskPlan.spot? s.host = some deskSpot := by decide +kernel
  have left : s.host.volume.get? deskSpot = some (.file 2) := by decide +kernel
  have spared : deskPlan.spared s = s.withVolume (s.host.volume.erase deskSpot) := by
    rw [Plan.spared, spot]
  refine ⟨?_, spot, ?_, by decide +kernel, ?_⟩
  · exact Builder.planAt_eq_ok_iff.mpr ⟨toOption_eq_some_iff.mp (by decide +kernel),
      toOption_eq_some_iff.mp (by decide +kernel)⟩
  · exact Builder.aside_of_file left (by decide +kernel) (by decide +kernel)
  · rw [spared]
    decide +kernel

end Job

end TexBuild
