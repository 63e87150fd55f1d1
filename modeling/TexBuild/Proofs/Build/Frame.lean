import TexBuild.Proofs.Build.Destination
import TexBuild.Proofs.Volume.Frame

namespace TexBuild.Builder

/-- A stage of a build that began in a session may change a place between two sessions. -/
inductive Permits (b : Builder) (source : Path) (s : Session) :
    Progress → Session → Session → Loc → Prop
  | directory {p s₁ s₂ loc} : b.planAt s.host source = .ok p →
      Volume.MadeFor s₁.host.volume s₂.host.volume s₁.host.cwd p.directory loc →
      Permits b source s (.planned p) s₁ s₂ loc
  | stale {p s₁ s₂ loc e} : b.planAt s.host source = .ok p → s₁.host.isFile p.source = .ok true →
      s₁.host.volume.findLink s₁.host.cwd p.artifact.text = .ok (loc, e) →
      s₂.host.volume.get? loc = none → Permits b source s (.sourced p) s₁ s₂ loc
  | document {p w s₁ s₂ loc id} : b.planAt s.host source = .ok p → w.phase = .over none →
      s₁.host.isFile p.artifact = .ok true →
      s₂.host.volume.findLink s₂.host.cwd p.destination.text = .ok (loc, .file id) →
      Permits b source s (.produced p w) s₁ s₂ loc

variable {b : Builder} {x : Programs} {limit : Seconds} {probe : Probe} {source : Path}
  {s s₁ s₂ : Session} {pr : Progress} {t : Turn} {p : Plan} {w : Supervision} {loc : Loc}

theorem Reaches.isFile_of_sourced (reach : b.Reaches x probe place source s (.sourced p) s₁) :
    s₁.host.isFile p.source = .ok true := by
  cases reach with
  | next before onward =>
    cases onward with
    | source found => exact found

theorem Reaches.isFile_of_produced (reach : b.Reaches x probe place source s (.produced p w) s₁) :
    w.phase = .over none ∧ s₁.host.isFile p.artifact = .ok true := by
  obtain ⟨s₀, watched, found, same⟩ := reach.of_produced
  refine ⟨?_, same ▸ found⟩
  cases watched with
  | next before onward =>
    cases onward with
    | watch _ _ ended => exact ended

/-- The volume after an earlier document is removed. -/
theorem Takes.removed (takes : b.Takes x probe place (.sourced p) s₁ t s₂) :
    s₂.host = s₁.host ∨ ∃ v, s₂.host = { s₁.host with volume := v } ∧
      s₁.host.volume.unlink s₁.host.cwd p.artifact.text = .ok v := by
  cases takes with
  | clear done => exact .inr ⟨_, rfl, done⟩
  | clearNothing | clearRefused => exact .inl rfl

/-- The volume after a document is brought to its place. -/
theorem Takes.copied (reach : b.Reaches x probe place source s (.produced p w) s₁)
    (takes : b.Takes x probe place (.produced p w) s₁ t s₂) :
    s₂.host = s₁.host ∨ ∃ v d, s₂.host = { s₁.host with volume := v } ∧
      Volume.Transfer s₁.host.volume s₁.host.cwd
        (s₁.host.volume.copyTarget s₁.host.cwd p.artifact.text p.destination.text) d v := by
  rw [takes.of_produced, host_place reach.isClean]
  obtain same | ⟨d, transfer⟩ := s₁.host.volume.copyFile_fst s₁.host.medium s₁.host.cwd
    p.artifact.text p.destination.text
  · rw [same]
    exact .inl rfl
  · exact .inr ⟨_, d, rfl, transfer⟩

/-- The numbers of files stay below the free ones in a stage that starts no program. -/
theorem Takes.numbered (reach : b.Reaches x probe place source s pr s₁)
    (takes : b.Takes x probe place pr s₁ t s₂) (own : pr.IsOwn)
    (numbered : s₁.host.volume.Numbered) : s₂.host.volume.Numbered := by
  cases pr with
  | cleared | started => exact own.elim
  | planned p =>
    rw [takes.made, Host.makeDirectories]
    dsimp only
    exact numbered.makeDirectories s₁.host.cwd s₁.host.stack.directories p.directory
  | sourced p =>
    obtain same | ⟨v, same, done⟩ := takes.removed
    · rwa [same]
    · rw [same]
      exact numbered.unlink done
  | produced p w =>
    obtain same | ⟨v, d, same, transfer⟩ := takes.copied reach
    · rwa [same]
    · rw [same]
      exact numbered.transfer transfer
  | _ => cases takes <;> exact numbered

/-- What a stage that starts no program changes, it may change. -/
theorem Takes.permits (reach : b.Reaches x probe place source s pr s₁)
    (takes : b.Takes x probe place pr s₁ t s₂) (own : pr.IsOwn)
    (numbered : s₁.host.volume.Numbered)
    (alone : ∀ p w, pr = .produced p w →
      s₁.host.volume.NamesOwn s₁.host.cwd p.destination.text)
    (changed : Volume.DiffersAt s₁.host.volume s₂.host.volume loc) :
    b.Permits source s pr s₁ s₂ loc := by
  cases pr with
  | cleared | started => exact own.elim
  | begun _ | prepared _ | watched _ _ =>
    cases takes <;> exact absurd changed Volume.not_differsAt_self
  | planned p =>
    refine .directory (reach.planAt_eq rfl) ?_
    rw [takes.made, Host.makeDirectories] at changed ⊢
    dsimp only at changed ⊢
    exact Volume.madeFor_of_makeDirectories _ _ _ _ changed
  | sourced p =>
    obtain same | ⟨v, same, done⟩ := takes.removed
    · rw [same] at changed
      exact absurd changed Volume.not_differsAt_self
    · rw [same] at changed
      obtain ⟨e, named, gone⟩ := Volume.findLink_of_unlink done changed
      exact .stale (reach.planAt_eq rfl) reach.isFile_of_sourced named (by rw [same]; exact gone)
  | produced p w =>
    obtain ⟨ended, found⟩ := reach.isFile_of_produced
    obtain same | ⟨v, d, same, transfer⟩ := takes.copied reach
    · rw [same] at changed
      exact absurd changed Volume.not_differsAt_self
    · have alone := alone p w rfl
      rw [alone.copyTarget] at transfer
      rw [same] at changed
      obtain ⟨id, named⟩ := Volume.findLink_of_transfer numbered alone transfer changed
      exact .document (reach.planAt_eq rfl) ended found (by rw [same]; exact named)

/-- The numbers of files stay below the free ones all through a build whose programs keep to that. -/
theorem Reaches.numbered (numbered : s.host.volume.Numbered)
    (programs : ∀ pr s₁ t s₂, b.Reaches x probe place source s pr s₁ →
      b.Takes x probe place pr s₁ t s₂ → ¬ pr.IsOwn → s₁.host.volume.Numbered →
        s₂.host.volume.Numbered)
    (reach : b.Reaches x probe place source s pr s₁) : s₁.host.volume.Numbered := by
  induction reach with
  | begun => exact numbered
  | @next pr _ _ _ before onward ih =>
    by_cases own : pr.IsOwn
    · exact onward.numbered before own ih
    · exact programs _ _ _ _ before onward own ih

/-- No stage changes the directory at hand or the variables. -/
theorem Reaches.surroundings (reach : b.Reaches x (x.probe limit) place source s pr s₁) :
    s₁.host.cwd = s.host.cwd ∧ s₁.host.environment = s.host.environment :=
  reach.steady (P := fun h => h.cwd = s.host.cwd ∧ h.environment = s.host.environment)
    (fun _ _ => id) (fun command => Programs.keeps_probe command fun _ _ _ => id)
    (keeps_place fun _ _ => id) ⟨rfl, rfl⟩

/-- Where the destination, when the document is brought there, names nothing or a regular file
that has no other name, a build changes nothing by itself but what it may, and the directory at
hand and the variables are the same after it. -/
theorem compile_frame (numbered : s.host.volume.Numbered)
    (programs : ∀ pr s₁ t s₂, b.Reaches x (x.probe limit) place source s pr s₁ →
      b.Takes x (x.probe limit) place pr s₁ t s₂ → ¬ pr.IsOwn → s₁.host.volume.Numbered →
        s₂.host.volume.Numbered)
    (alone : ∀ p w s₁, b.Reaches x (x.probe limit) place source s (.produced p w) s₁ →
      s₁.host.volume.NamesOwn s₁.host.cwd p.destination.text) :
    (∀ pr s₁ t s₂ loc, b.Reaches x (x.probe limit) place source s pr s₁ →
      b.Takes x (x.probe limit) place pr s₁ t s₂ → pr.IsOwn →
        Volume.DiffersAt s₁.host.volume s₂.host.volume loc → b.Permits source s pr s₁ s₂ loc) ∧
      (∃ pr s₁ t s₂, b.Reaches x (x.probe limit) place source s pr s₁ ∧
        b.Takes x (x.probe limit) place pr s₁ t s₂ ∧
        ((b.compile x (x.probe limit) place source).runOn s).2.host = s₂.host) ∧
      ((b.compile x (x.probe limit) place source).runOn s).2.host.cwd = s.host.cwd ∧
      ((b.compile x (x.probe limit) place source).runOn s).2.host.environment =
        s.host.environment := by
  refine ⟨fun pr s₁ t s₂ loc reach takes own changed => ?_, ?_⟩
  · refine takes.permits reach own (reach.numbered numbered programs) ?_ changed
    rintro p w rfl
    exact alone p w s₁ reach
  · refine ⟨?_, keeps_compile
      (P := fun h => h.cwd = s.host.cwd ∧ h.environment = s.host.environment) (fun _ _ => id)
      (fun command => Programs.keeps_probe command fun _ _ _ => id) (keeps_place fun _ _ => id) s
      ⟨rfl, rfl⟩⟩
    rw [host_compile.1]
    have ends : b.Ends x (x.probe limit) place source s _ := ends_build
    generalize (b.build x (x.probe limit) place source).runOn s = o at ends ⊢
    cases ends with
    | @last pr s₁ t s₂ _ reach takes _ => exact ⟨pr, s₁, t, s₂, reach, takes, rfl⟩

/-- The build on the desk comes to bring its document to a free place. -/
theorem reaches_produced_desk :
    ∃ w s₁, deskBuilder.Reaches greeting (greeting.probe (.whole 5)) place
        (Path.ofString "/s/cv.tex") desk (.produced Job.deskPlan w) s₁ ∧
      s₁.host.volume.findLink s₁.host.cwd Job.deskPlan.destination.text = .error .noEntry := by
  let source := Path.ofString "/s/cv.tex"
  let probe := greeting.probe (.whole 5)
  let p := Job.deskPlan
  have paths : deskBuilder.planAt desk.host source = .ok p :=
    planAt_eq_ok_iff.mpr ⟨toOption_eq_some_iff.mp (by decide +kernel),
      toOption_eq_some_iff.mp (by decide +kernel)⟩
  let s₁ := desk.telling (Report.start p.source p.directory)
  let v := (s₁.host.makeDirectories p.directory).1
  have done : (s₁.host.makeDirectories p.directory).2 = .ok () := by decide +kernel
  have made : s₁.host.makeDirectories p.directory = (v, .ok ()) :=
    (Prod.eta _).symm.trans (congrArg (Prod.mk v) done)
  let s₂ := s₁.withVolume v
  have there : s₂.host.isFile p.source = .ok true := toOption_eq_some_iff.mp (by decide +kernel)
  have absent : s₂.host.volume.unlink s₂.host.cwd p.artifact.text = .error .noEntry := by
    decide +kernel
  let search := (deskBuilder.search.resolve probe).runOn s₂
  let tool : Tool := ⟨"/tex", false, true⟩
  let launch := p.launch tool search.2.host.environment
  let image : Image := ⟨(Path.ofString "/tex").names, "true", ["/tex"]⟩
  have resolves : search = (.ok tool, search.2) := Act.runOn_eq_ok (by decide +kernel)
  have starts : launch.start search.2.host.volume = .ok image :=
    toOption_eq_some_iff.mp (by decide +kernel)
  let watched := deskBuilder.watched greeting launch image
    (search.2.telling (engineNotices p tool))
  have ended : watched.1.phase = .over none := by decide +kernel
  have found : watched.2.host.isFile p.artifact = .ok true :=
    toOption_eq_some_iff.mp (by decide +kernel)
  have free : watched.2.host.volume.findLink watched.2.host.cwd p.destination.text =
      .error .noEntry := by
    decide +kernel
  have cleared : deskBuilder.Reaches greeting probe place source desk (.cleared p) s₂ :=
    (((Reaches.begun.next (.plan paths)).next (.prepare made)).next (.source there)).next
      (.clearNothing absent)
  have started : deskBuilder.Reaches greeting probe place source desk (.started p launch image)
      (search.2.telling (engineNotices p tool)) := cleared.next (.start resolves starts)
  have seen : deskBuilder.Reaches greeting probe place source desk (.watched p watched.1)
      watched.2 := started.next (.watch rfl rfl ended)
  refine ⟨watched.1, watched.2.telling [endNotice watched.1], seen.next (.produce found), ?_⟩
  rw [Session.host_telling]
  exact free

theorem compile_frame_desk :
    let source := Path.ofString "/s/cv.tex"
    let limit := Seconds.whole 5
    desk.host.volume.Numbered ∧
      (∃ w s₁, deskBuilder.Reaches greeting (greeting.probe limit) place source desk
          (.produced Job.deskPlan w) s₁ ∧
        s₁.host.volume.NamesOwn s₁.host.cwd Job.deskPlan.destination.text ∧
        ∀ t s₂ loc, deskBuilder.Takes greeting (greeting.probe limit) place
            (.produced Job.deskPlan w) s₁ t s₂ →
          Volume.DiffersAt s₁.host.volume s₂.host.volume loc →
            deskBuilder.Permits source desk (.produced Job.deskPlan w) s₁ s₂ loc) ∧
      ((deskBuilder.compile greeting (greeting.probe limit) place source).runOn desk).2.host.cwd =
        desk.host.cwd := by
  intro source limit
  have numbered : desk.host.volume.Numbered := .of_forall_mem (by simp [desk])
  obtain ⟨w, s₁, produced, free⟩ := reaches_produced_desk
  have alone : ∀ p w' s', deskBuilder.Reaches greeting (greeting.probe limit) place source desk
      (.produced p w') s' → s'.host.volume.NamesOwn s'.host.cwd p.destination.text := by
    intro p w' s' reach
    obtain ⟨same, rfl⟩ := reach.unique produced rfl
    cases same
    exact .of_findLink_eq_error free
  have programs : ∀ pr s₁ t s₂,
      deskBuilder.Reaches greeting (greeting.probe limit) place source desk pr s₁ →
        deskBuilder.Takes greeting (greeting.probe limit) place pr s₁ t s₂ → ¬ pr.IsOwn →
          s₁.host.volume.Numbered → s₂.host.volume.Numbered := by
    intro _ _ _ _ _ takes
    refine takes.keeps (P := fun h => h.volume.Numbered) (fun _ _ _ => id) fun _ _ h kept => ?_
    change (h.volume.putFile Job.deskSpot ⟨[37], 0o644⟩).Numbered
    exact kept.putFile _ _
  obtain ⟨frame, -, here, -⟩ := compile_frame numbered programs alone
  exact ⟨numbered, ⟨w, s₁, produced, alone _ _ _ produced,
    fun t s₂ loc takes => frame _ _ _ _ _ produced takes trivial⟩, here⟩

/-- Greets like `greeting`, and leaves a document of one octet at a place. -/
def leaving (loc : Loc) : Programs where
  answers := greeting.answers
  shows limit launch image v :=
    { greeting.shows limit launch image v with volume := v.putFile loc ⟨[37], 0o644⟩ }

/-- Where the engine is to work in a directory below the place of the document, that place is made
a directory, and the document is brought to yet another place in it. -/
theorem compile_writes_aside :
    let source := Path.ofString "/s/cv.tex"
    let b : Builder := { deskBuilder with directory := some (Path.ofString "/s/cv.pdf/sub") }
    let x := leaving (Path.ofString "/s/cv.pdf/sub/cv.pdf").names.reverse
    let aside : Loc := (Path.ofString "/s/cv.pdf/cv.pdf").names.reverse
    let run := (b.compile x (x.probe (.whole 5)) place source).runOn desk
    desk.host.sight source.document = (none, none) ∧ desk.host.volume.get? aside = none ∧
      (∀ limit launch image v, (x.answers limit launch image v).2.get? aside = v.get? aside) ∧
      (∀ limit launch image v, (x.runs limit launch image v).volume.get? aside = v.get? aside) ∧
      run.2.host.volume.fileAt? aside = some ⟨[37], 0o644⟩ := by
  refine ⟨by decide +kernel, by decide +kernel, fun _ _ _ _ => rfl, fun _ _ _ v => ?_,
    by decide +kernel⟩
  exact Volume.get?_putFile_of_ne (by decide +kernel)

end TexBuild.Builder
