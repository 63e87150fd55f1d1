import TexBuild.Proofs.Build.Outcome
import TexBuild.Proofs.Tool.Keeping
import TexBuild.Proofs.Volume.Copy

namespace TexBuild

/-- The paths of a build, once they are known. -/
def Progress.plan? : Progress → Option Plan
  | .begun _ => none
  | .planned p | .prepared p | .sourced p | .cleared p | .started p _ _ | .watched p _
  | .produced p _ => some p

theorem Host.isFile_eq_true_iff {h : Host} {p : Path} :
    h.isFile p = .ok true ↔
      Volume.isClean p = true ∧ h.volume.isRegular h.cwd p.text = .ok true := by
  unfold isFile
  by_cases clean : Volume.isClean p = true
  · rw [if_pos clean, mapError_eq_ok_iff]
    exact (and_iff_right clean).symm
  · rw [if_neg clean]
    exact ⟨fun off => (Bool.false_ne_true (Except.ok.inj off)).elim, fun on => absurd on.1 clean⟩

theorem runOn_place (built destination : Path) (s : Session) :
    (place built destination).runOn s =
      if Volume.isClean built && Volume.isClean destination then
        match s.host.volume.copyFile s.host.medium s.host.cwd built.text destination.text with
        | (v, .ok _) =>
          (.ok (), (s.withVolume v).telling
            [Notice.build .debug s!"Copied {built} -> {destination}"])
        | (v, .error .sameFile) =>
          (.ok (), (s.withVolume v).telling
            [Notice.build .debug s!"Artifact already at destination: {destination}"])
        | (v, .error (.refused cause)) =>
          (.error (.relocation ⟨built, destination, cause⟩), s.withVolume v)
      else (.error (.unfit (if Volume.isClean built then destination else built).text), s) := by
  unfold place
  by_cases clean : (Volume.isClean built && Volume.isClean destination) = true
  · rw [if_pos clean, if_pos clean, Act.runOn_bind, Act.runOn_host]
    dsimp only
    rcases s.host.volume.copyFile s.host.medium s.host.cwd built.text destination.text with
      ⟨v, (_ | cause) | _⟩ <;> rfl
  · rw [if_neg clean, if_neg clean]
    rfl

/-- A document is brought to its place by a copy, or is found there. -/
theorem runOn_place_eq_ok {built destination : Path} {s s' : Session}
    (placed : (place built destination).runOn s = (.ok (), s')) :
    Volume.isClean destination = true ∧ s'.host.cwd = s.host.cwd ∧
      let copied := s.host.volume.copyFile s.host.medium s.host.cwd built.text destination.text
      copied = (s'.host.volume, .ok ()) ∨ copied = (s'.host.volume, .error .sameFile) := by
  rw [runOn_place] at placed
  by_cases clean : (Volume.isClean built && Volume.isClean destination) = true
  · rw [if_pos clean] at placed
    refine ⟨(Bool.and_eq_true_iff.mp clean).2, ?_⟩
    rcases made : s.host.volume.copyFile s.host.medium s.host.cwd built.text destination.text with
      ⟨v, (_ | cause) | _⟩ <;> rw [made] at placed <;> cases placed
    · exact ⟨rfl, .inr rfl⟩
    · exact ⟨rfl, .inl rfl⟩
  · rw [if_neg clean] at placed
    cases placed

namespace Builder

variable {b : Builder} {x : Programs} {probe : Probe} {relocate : Relocation} {source : Path}
  {s s₁ s₂ s' : Session} {pr pr' : Progress} {p : Plan} {w : Supervision} {t : Turn}
  {r : BuildResult}

theorem planAt_eq_ok_iff {h : Host} :
    b.planAt h source = .ok p ↔
      h.resolve source = .ok p.source ∧ h.buildDirectory b.directory = .ok p.directory := by
  unfold planAt
  simp only [bind_eq_ok_iff]
  constructor
  · rintro ⟨source', resolved, directory, found, made⟩
    cases made
    exact ⟨resolved, found⟩
  · rintro ⟨resolved, found⟩
    exact ⟨_, resolved, _, found, rfl⟩

theorem Reaches.of_begun {source' : Path}
    (reach : b.Reaches x probe relocate source s (.begun source') s₁) :
    source' = source ∧ s₁ = s := by
  cases reach with
  | begun => exact ⟨rfl, rfl⟩
  | next _ onward => cases onward.number_eq

/-- The paths of a build are those that it began with. -/
theorem Reaches.planAt_eq (reach : b.Reaches x probe relocate source s pr s₁)
    (planned : pr.plan? = some p) : b.planAt s.host source = .ok p := by
  induction reach with
  | begun => cases planned
  | next before onward ih =>
    cases onward with
    | plan paths =>
      obtain ⟨rfl, rfl⟩ := before.of_begun
      cases planned
      exact paths
    | _ => exact ih planned

theorem Reaches.of_produced (reach : b.Reaches x probe relocate source s (.produced p w) s₂) :
    ∃ s₁, b.Reaches x probe relocate source s (.watched p w) s₁ ∧
      s₁.host.isFile p.artifact = .ok true ∧ s₂.host = s₁.host := by
  cases reach with
  | next before onward =>
    cases onward with
    | produce found => exact ⟨_, before, found, rfl⟩

section Steady

variable {P : Host → Prop}

/-- What no change of the volume touches holds after a stage, too. -/
theorem Takes.steady (volumes : ∀ h v, P h → P { h with volume := v })
    (probes : ∀ command, Act.Keeps P (probe command))
    (relocates : ∀ built destination, Act.Keeps P (relocate built destination))
    (takes : b.Takes x probe relocate pr s₁ t s₂) (held : P s₁.host) : P s₂.host := by
  have searched := Search.keeps_resolve (q := b.search) probes s₁ held
  have ran {launch image w s'} (seen : b.watched x launch image s₁ = (w, s')) : P s'.host := by
    have left := volumes s₁.host (x.runs b.limit launch image s₁.host.volume).volume held
    cases seen
    exact left
  have brought {built destination o s'}
      (placed : (relocate built destination).runOn s₁ = (o, s')) : P s'.host := by
    have kept := relocates built destination s₁ held
    rwa [placed] at kept
  cases takes with
  | prepare | prepareRefused | prepareBroken | clear | limitBroken => exact volumes _ _ held
  | start search | startRefused search | startBroken search | searchBroken search =>
    rwa [search] at searched
  | watch _ seen | watchInterrupted _ seen | nameBroken _ seen | watchEscaped _ seen
  | watchUnending _ seen =>
    exact ran seen
  | deliver placed | deliverRefused placed | deliverBroken placed =>
    exact brought placed
  | _ => exact held

theorem Reaches.steady (volumes : ∀ h v, P h → P { h with volume := v })
    (probes : ∀ command, Act.Keeps P (probe command))
    (relocates : ∀ built destination, Act.Keeps P (relocate built destination))
    (reach : b.Reaches x probe relocate source s pr s₁) (held : P s.host) : P s₁.host := by
  induction reach with
  | begun => exact held
  | next _ onward ih => exact onward.steady volumes probes relocates ih

theorem keeps_place (volumes : ∀ h v, P h → P { h with volume := v }) (built destination : Path) :
    Act.Keeps P (place built destination) := by
  intro s held
  rw [runOn_place]
  split
  · split <;> exact volumes _ _ held
  · exact held

end Steady

/-- The host after the directory for builds is made. -/
theorem Takes.made (takes : b.Takes x probe relocate (.planned p) s₁ t s₂) :
    s₂.host = { s₁.host with volume := (s₁.host.makeDirectories p.directory).1 } := by
  cases takes with
  | prepare made | prepareRefused made | prepareBroken made =>
    rw [made]
    rfl

/-- A document that was brought to its place lies there as the engine left it exactly if only
a regular file could be there. -/
theorem compile_delivers (returned : (b.compile x probe place source).runOn s = (.ok r, s'))
    (success : r.success = true) :
    ∃ p w s₁, b.Reaches x probe place source s (.watched p w) s₁ ∧
      s.host.resolve source = .ok p.source ∧ s.host.buildDirectory b.directory = .ok p.directory ∧
      r.artifact? = some (p.source.parent.child (artifactName p.source)) ∧
      (s'.host.isFile p.destination = .ok true ∧
          s'.host.volume.bytesAt? s'.host.cwd p.destination.text =
            s₁.host.volume.bytesAt? s₁.host.cwd p.artifact.text ↔
        s₁.host.volume.TakesFile s₁.host.cwd p.destination.text) := by
  obtain ⟨s₃, ds, notices, ends, -, -, rfl⟩ := runOn_compile_eq_ok_iff.mp returned
  obtain ⟨pr, s₂, reach, ⟨problem, -, -, failed⟩ | ⟨p, w, rfl, takes, built⟩⟩ := ends.decided
  · rw [BuildResult.success, failed] at success
    cases success
  obtain ⟨s₁, watched, found, same⟩ := reach.of_produced
  obtain ⟨resolved, directory⟩ := planAt_eq_ok_iff.mp (watched.planAt_eq rfl)
  refine ⟨p, w, s₁, watched, resolved, directory, by rw [BuildResult.artifact?, built]; rfl, ?_⟩
  generalize r.rawLog = log at takes
  cases takes with
  | deliver placed =>
    obtain ⟨clean, cwd, copied⟩ := runOn_place_eq_ok placed
    rw [same] at cwd copied
    obtain ⟨-, regular⟩ := Host.isFile_eq_true_iff.mp found
    obtain ⟨loc, id, artifact⟩ := Volume.isRegular_eq_true_iff.mp regular
    rw [← Volume.copyFile_delivers_iff artifact copied, Host.isFile_eq_true_iff,
      Session.host_telling, cwd, and_iff_right clean]

theorem compile_delivers_desk :
    let run := (deskBuilder.compile greeting (greeting.probe (.whole 5)) place
      (Path.ofString "/s/cv.tex")).runOn desk
    let r : BuildResult := ⟨.built (Path.ofString "/s/cv.pdf"), "hi\n", .zero⟩
    run = (.ok r, run.2) ∧
      ∃ p w s₁, deskBuilder.Reaches greeting (greeting.probe (.whole 5)) place
          (Path.ofString "/s/cv.tex") desk (.watched p w) s₁ ∧
        r.artifact? = some (p.source.parent.child (artifactName p.source)) := by
  intro run r
  have returned : run = (.ok r, run.2) := Act.runOn_eq_ok (by decide +kernel)
  obtain ⟨p, w, s₁, watched, -, -, artifact, -⟩ := compile_delivers returned rfl
  exact ⟨returned, p, w, s₁, watched, artifact⟩

/-- The desk with a document beside the source. -/
def deskBuilt : Session :=
  desk.withVolume (desk.host.volume.putFile (Path.ofString "/s/cv.pdf").names.reverse ⟨[37], 0o644⟩)

/-- The desk with a document of another user beside the source, which all may write, but whose times
and permission bits only that user may change. -/
def deskLent : Session :=
  { desk with host := { desk.host with
    volume := desk.host.volume.putFile (Path.ofString "/s/cv.pdf").names.reverse ⟨[80], 0o666⟩
    medium := ⟨fun _ _ => none, fun path =>
      if path = "/s/cv.pdf" then some (.numbered 1 "Operation not permitted" none) else none⟩ } }

/-- With a directory at the destination a build is complete, but its document is no file. -/
theorem compile_delivers_directory :
    let blocked := desk.withVolume
      (desk.host.volume.put [⟨"cv.pdf", by decide⟩, ⟨"s", by decide⟩] (.directory 0o755))
    let run := (deskBuilder.compile greeting (greeting.probe (.whole 5)) place
      (Path.ofString "/s/cv.tex")).runOn blocked
    run.1.toOption = some ⟨.built (Path.ofString "/s/cv.pdf"), "hi\n", .zero⟩ ∧
      run.2.host.pathExists (Path.ofString "/s/cv.pdf") = false := by
  decide +kernel

end Builder

end TexBuild
