import TexBuild.Proofs.Build.Leftover
import TexBuild.Proofs.Build.Return

namespace TexBuild

namespace Plan

/-- The source of a build is a regular file with these octets. -/
def Holds (p : Plan) (bytes : List UInt8) (h : Host) : Prop :=
  ∃ loc id d, h.volume.find h.cwd p.source.text = .ok (loc, .file id) ∧
    h.volume.data? id = some d ∧ d.bytes = bytes ∧ id < h.volume.next

/-- A stage of a build is about to damage the source: what it removes as an earlier document is
the source or a link on its way, or it opens the source through another name or a link as the target
of a copy, and other octets come there. -/
def Harms (p : Plan) : Progress → Session → Prop
  | .sourced _, s =>
    ∃ loc e v, s.host.volume.findLink s.host.cwd p.artifact.text = .ok (loc, e) ∧
      s.host.volume.unlink s.host.cwd p.artifact.text = .ok v ∧ s.host.Uses p.source loc
  | .produced _ _, s =>
    let target := s.host.volume.copyTarget s.host.cwd p.artifact.text p.destination.text
    ∃ octets v, s.host.volume.copyOctets s.host.medium s.host.cwd p.artifact.text target =
        .ok (octets, v) ∧
      (∃ place loc id, s.host.volume.find s.host.cwd target = .ok (place, .file id) ∧
        s.host.volume.find s.host.cwd p.source.text = .ok (loc, .file id)) ∧
      s.host.volume.bytesAt? s.host.cwd p.source.text ≠ some (s.host.medium.carried target octets)
  | _, _ => False

variable {p : Plan} {bytes : List UInt8} {h : Host} {v : Volume}

theorem Holds.bytesAt?_eq (holds : p.Holds bytes h) :
    h.volume.bytesAt? h.cwd p.source.text = some bytes := by
  obtain ⟨loc, id, d, found, data, rfl, -⟩ := holds
  exact Volume.bytesAt?_of_find found data

theorem Holds.grown (grown : Volume.Grown h.volume v) (holds : p.Holds bytes h) :
    p.Holds bytes { h with volume := v } := by
  obtain ⟨loc, id, d, found, data, octets, used⟩ := holds
  refine ⟨loc, id, d, grown.entries.find found, ?_, octets, ?_⟩
  · dsimp only [Volume.data?] at data ⊢
    rwa [grown.files]
  · dsimp only
    rwa [grown.next]

/-- The source outlasts the removal of an entry exactly if it is not used by its path. -/
theorem Holds.without_iff {loc : Loc} (leaf : h.volume.IsLeaf loc) (holds : p.Holds bytes h) :
    p.Holds bytes (h.without loc) ↔ ¬ h.Uses p.source loc := by
  obtain ⟨l, id, d, found, data, octets, used⟩ := holds
  constructor
  · rintro ⟨l', id', d', found', -⟩ uses
    obtain ⟨found'', other, apart⟩ := (Volume.find_erase_eq_ok_iff leaf).mp found'
    obtain passes | ⟨e, there⟩ := uses
    · exact apart passes
    · cases found''.symm.trans there
      exact other rfl
  · intro unused
    obtain ⟨apart, other⟩ := not_or.mp unused
    refine ⟨l, id, d, (Volume.find_erase_eq_ok_iff leaf).mpr ⟨found, ?_, apart⟩, data, octets, used⟩
    rintro rfl
    exact other ⟨_, found⟩

/-- What is brought to a place leaves the source as it is unless it puts other octets into its
file. -/
theorem Holds.transfer_iff {target : String} {d : FileData}
    (transfer : Volume.Transfer h.volume h.cwd target d v) (holds : p.Holds bytes h) :
    p.Holds bytes { h with volume := v } ↔
      ¬ ((∃ place loc id, h.volume.find h.cwd target = .ok (place, .file id) ∧
          h.volume.find h.cwd p.source.text = .ok (loc, .file id)) ∧ bytes ≠ d.bytes) := by
  obtain ⟨l, id, held, found, data, same, used⟩ := holds
  have still := transfer.extends.find found
  have kept (data' : v.data? id = some held) (used' : id < v.next) :
      p.Holds bytes { h with volume := v } := ⟨l, id, held, still, data', same, used'⟩
  cases transfer with
  | @overwritten place number there =>
    by_cases own : id = number
    · subst own
      constructor
      · rintro ⟨l', id', d'', found', data', same', -⟩ ⟨-, other⟩
        cases still.symm.trans found'
        rw [Volume.data?_putData_self] at data'
        cases data'
        exact other same'.symm
      · intro harmless
        by_cases equal : bytes = d.bytes
        · exact ⟨l, id, _, still, Volume.data?_putData_self .., equal.symm, used⟩
        · exact absurd ⟨⟨place, l, id, there, found⟩, equal⟩ harmless
    · refine iff_of_true (kept ?_ used) fun ⟨⟨place', l', id', there', found'⟩, _⟩ => own ?_
      · rw [Volume.data?_putData_of_ne _ _ own, data]
      · cases there.symm.trans there'
        cases found.symm.trans found'
        rfl
  | @created directory name vacant =>
    refine iff_of_true (kept ?_ (Nat.lt_succ_of_lt used))
      fun ⟨⟨_, _, id', there', _⟩, _⟩ => ?_
    · exact (lookup_insertKey_of_ne (Nat.ne_of_lt used) ..).trans data
    · cases vacant.symm.trans (Volume.find_eq_ok_iff.mp there')
  | swallowed there device =>
    refine iff_of_true (kept data used) fun ⟨⟨_, _, id', there', _⟩, _⟩ => ?_
    cases there.symm.trans there'
    exact device.1 id' rfl

end Plan

/-- The next stage of a build starts no program. -/
def Progress.IsOwn : Progress → Prop
  | .cleared _ | .started .. => False
  | _ => True

namespace Builder

variable {b : Builder} {x : Programs} {probe : Probe} {relocate : Relocation} {source : Path}
  {s s₁ s₂ : Session} {pr : Progress} {t : Turn} {p : Plan} {w : Supervision}
  {bytes : List UInt8}

theorem host_place {built destination : Path}
    (clean : Volume.isClean built = true ∧ Volume.isClean destination = true) :
    ((place built destination).runOn s).2.host =
      { s.host with
        volume := (s.host.volume.copyFile s.host.medium s.host.cwd built.text
          destination.text).1 } := by
  rw [runOn_place, if_pos (Bool.and_eq_true_iff.mpr clean)]
  rcases s.host.volume.copyFile s.host.medium s.host.cwd built.text destination.text with
    ⟨v, (_ | cause) | _⟩ <;> rfl

theorem Takes.of_produced (takes : b.Takes x probe relocate (.produced p w) s₁ t s₂) :
    s₂ = ((relocate p.artifact p.destination).runOn s₁).2 := by
  cases takes with
  | deliver placed => rw [placed]
  | deliverRefused placed => rw [placed]
  | deliverBroken placed _ => rw [placed]

theorem exists_takes_of_produced :
    ∃ t s₂, b.Takes x probe relocate (.produced p w) s₁ t s₂ := by
  rcases placed : (relocate p.artifact p.destination).runOn s₁ with ⟨f | _, s₂⟩
  · by_cases refusal : ∃ cause, f = .relocation cause
    · obtain ⟨cause, rfl⟩ := refusal
      exact ⟨_, _, .deliverRefused placed⟩
    · exact ⟨_, _, .deliverBroken placed fun cause same => refusal ⟨cause, same⟩⟩
  · exact ⟨_, _, .deliver placed⟩

/-- The source outlasts a stage that starts no program exactly if that stage does not harm it. -/
theorem Takes.holds_iff (reach : b.Reaches x probe place source s pr s₁)
    (takes : b.Takes x probe place pr s₁ t s₂) (own : pr.IsOwn)
    (paths : b.planAt s.host source = .ok p) (holds : p.Holds bytes s₁.host) :
    p.Holds bytes s₂.host ↔ ¬ p.Harms pr s₁ := by
  cases pr with
  | begun _ =>
    refine iff_of_true ?_ id
    cases takes <;> exact holds
  | planned p' =>
    refine iff_of_true ?_ id
    rw [takes.made]
    exact holds.grown (Volume.grown_makeDirectories ..)
  | prepared p' =>
    refine iff_of_true ?_ id
    cases takes <;> exact holds
  | sourced p' =>
    cases (reach.planAt_eq rfl).symm.trans paths
    cases takes with
    | clear removed =>
      obtain ⟨loc, e, found, leaf, rfl⟩ := Volume.unlink_eq_ok removed
      refine (holds.without_iff leaf).trans (not_congr ⟨fun uses => ?_, ?_⟩)
      · exact ⟨loc, e, _, found, removed, uses⟩
      · rintro ⟨loc', e', v, found', -, uses⟩
        cases found.symm.trans found'
        exact uses
    | clearNothing absent =>
      refine iff_of_true holds ?_
      rintro ⟨loc, e, v, -, removed, -⟩
      cases absent.symm.trans removed
    | clearRefused refused _ =>
      refine iff_of_true holds ?_
      rintro ⟨loc, e, v, -, removed, -⟩
      cases refused.symm.trans removed
  | cleared _ => exact own.elim
  | started => exact own.elim
  | watched p' w =>
    refine iff_of_true ?_ id
    cases takes <;> exact holds
  | produced p' w =>
    cases (reach.planAt_eq rfl).symm.trans paths
    rw [takes.of_produced, host_place reach.isClean]
    unfold Plan.Harms
    dsimp only
    rcases opened : s₁.host.volume.copyOctets s₁.host.medium s₁.host.cwd p.artifact.text
        (s₁.host.volume.copyTarget s₁.host.cwd p.artifact.text p.destination.text) with
      stop | ⟨octets, v⟩
    · rw [Volume.copyFile_of_error opened]
      refine iff_of_true holds ?_
      rintro ⟨octets, v, opened', -⟩
      cases opened'
    · obtain ⟨-, d, transfer, carried, -⟩ := Volume.copyFile_of_ok opened
      rw [holds.transfer_iff transfer, holds.bytesAt?_eq, ne_eq, carried, ← Option.some_inj]
      refine not_congr ⟨fun into => ⟨octets, v, rfl, into⟩, ?_⟩
      rintro ⟨octets', v', opened', into⟩
      cases opened'
      exact into

/-- Whatever the outcome, what a build does by itself leaves the source as it is exactly if none
of the stages that it comes to harms it. -/
theorem stages_keep_source_iff (paths : b.planAt s.host source = .ok p) :
    (∀ pr s₁ t s₂ bytes, b.Reaches x probe place source s pr s₁ →
        b.Takes x probe place pr s₁ t s₂ → pr.IsOwn → p.Holds bytes s₁.host →
          p.Holds bytes s₂.host) ↔
      ∀ pr s₁ bytes, b.Reaches x probe place source s pr s₁ → p.Holds bytes s₁.host →
        ¬ p.Harms pr s₁ := by
  constructor
  · intro keep pr s₁ bytes reach holds harms
    obtain ⟨own, t, s₂, takes⟩ : pr.IsOwn ∧ ∃ t s₂, b.Takes x probe place pr s₁ t s₂ := by
      cases pr with
      | sourced p' => exact ⟨trivial, _, _, takes_sourced ..⟩
      | produced p' w => exact ⟨trivial, exists_takes_of_produced⟩
      | _ => exact harms.elim
    exact (takes.holds_iff reach own paths holds).mp (keep _ _ _ _ _ reach takes own holds) harms
  · intro harmless pr s₁ t s₂ bytes reach takes own holds
    exact (takes.holds_iff reach own paths holds).mpr (harmless pr s₁ bytes reach holds)

theorem stages_keep_source_iff_desk :
    let probe := Builder.greeting.probe (.whole 5)
    let source := Path.ofString "/s/cv.tex"
    deskBuilder.planAt desk.host source = .ok Job.deskPlan ∧
      ((∀ pr s₁ t s₂ bytes, deskBuilder.Reaches greeting probe place source desk pr s₁ →
          deskBuilder.Takes greeting probe place pr s₁ t s₂ → pr.IsOwn →
            Job.deskPlan.Holds bytes s₁.host → Job.deskPlan.Holds bytes s₂.host) ↔
        ∀ pr s₁ bytes, deskBuilder.Reaches greeting probe place source desk pr s₁ →
          Job.deskPlan.Holds bytes s₁.host → ¬ Job.deskPlan.Harms pr s₁) := by
  intro probe source
  have paths : deskBuilder.planAt desk.host source = .ok Job.deskPlan :=
    planAt_eq_ok_iff.mpr ⟨toOption_eq_some_iff.mp (by decide +kernel),
      toOption_eq_some_iff.mp (by decide +kernel)⟩
  exact ⟨paths, stages_keep_source_iff paths⟩

/-- A source in the directory for builds that has the name of its own document is removed, though
no program touches it. -/
theorem compile_removes_source :
    let source := Path.ofString "/b/cv.pdf"
    let s := desk.withVolume (desk.host.volume.putFile Job.deskSpot ⟨[37], 0o644⟩)
    let run := (deskBuilder.compile Job.idle (Job.idle.probe (.whole 5)) place source).runOn s
    s.host.pathExists source = true ∧ run.2.host.pathExists source = false ∧
      run.1.toOption.bind BuildResult.failure? = some .compilation := by
  decide +kernel

end Builder

end TexBuild
