import TexBuild.Proofs.Build.Source
import TexBuild.Proofs.Host.Sight
import TexBuild.Proofs.Tool.Keeping

namespace TexBuild

/-- The document beside a source. -/
def Path.document (source : Path) : Path :=
  source.parent.child (artifactName source)

/-- A copy opens its target, and is stopped then. -/
def Host.Halts (h : Host) (built destination : Path) : Prop :=
  let target := h.volume.copyTarget h.cwd built.text destination.text
  ∃ octets v cause, h.volume.copyOctets h.medium h.cwd built.text target = .ok (octets, v) ∧
    h.medium.stop? target octets = some cause

/-- A stage of a build is about to change what is seen of the document beside a source: it brings
something there by making the directory for the engine, or what it removes as an earlier document
is that document, or a link by which that one is reached, or a copy is stopped that has opened its
target. -/
def Progress.Disturbs (q : Path) : Progress → Session → Prop
  | .planned p, s =>
    let v := (s.host.makeDirectories p.directory).1
    s.host.Gains { s.host with volume := v } q.document
  | .sourced p, s =>
    ∃ place v, s.host.named? p.artifact = some place ∧
      s.host.volume.unlink s.host.cwd p.artifact.text = .ok v ∧
      s.host.Rests q.parent (artifactName q) place.1
  | .produced p _, s => s.host.Halts p.artifact p.destination
  | _, _ => False

namespace Builder

variable {b : Builder} {x : Programs} {probe : Probe} {source q : Path} {s s₁ s₂ s' : Session}
  {pr : Progress} {t : Turn} {f : Fault} {r : BuildResult}

/-- A copy that fails has changed nothing, or was stopped when its target was open. -/
theorem halts_of_place {built destination : Path}
    (clean : Volume.isClean built = true ∧ Volume.isClean destination = true)
    (failed : (place built destination).runOn s = (.error f, s')) :
    s'.host = s.host ∨ s.host.Halts built destination := by
  have left : s'.host = _ := failed ▸ host_place (s := s) clean
  rw [runOn_place, if_pos (Bool.and_eq_true_iff.mpr clean)] at failed
  rcases opened : s.host.volume.copyOctets s.host.medium s.host.cwd built.text
      (s.host.volume.copyTarget s.host.cwd built.text destination.text) with stop | ⟨octets, v⟩
  · rw [Volume.copyFile_of_error opened] at left
    exact .inl left
  · obtain ⟨-, d, -, -, ends⟩ := Volume.copyFile_of_ok opened
    cases stop : s.host.medium.stop?
        (s.host.volume.copyTarget s.host.cwd built.text destination.text) octets with
    | some cause => exact .inr ⟨octets, v, cause, opened, stop⟩
    | none =>
      rw [stop] at ends
      rw [← Prod.eta (s.host.volume.copyFile s.host.medium s.host.cwd built.text destination.text),
        ends.1] at failed
      cases failed

/-- What is seen of the document outlasts a stage before the copy that starts no program exactly if
that stage does not disturb it. -/
theorem Takes.sight_iff (takes : b.Takes x probe place pr s₁ t s₂) (own : pr.IsOwn)
    (early : ∀ p w, pr ≠ .produced p w) :
    s₂.host.sight q.document = s₁.host.sight q.document ↔ ¬ pr.Disturbs q s₁ := by
  cases pr with
  | begun _ =>
    refine iff_of_true ?_ id
    cases takes <;> rfl
  | planned p =>
    rw [takes.made]
    exact Host.sight_eq_iff_of_grown (Volume.grown_makeDirectories ..)
  | prepared _ =>
    refine iff_of_true ?_ id
    cases takes <;> rfl
  | sourced p =>
    cases takes with
    | clear removed =>
      obtain ⟨loc, e, found, leaf, rfl⟩ := Volume.unlink_eq_ok removed
      have named : s₁.host.named? p.artifact = some (loc, e) := Host.named?_eq_some_iff.mpr found
      refine (Host.sight_without_iff (artifactName_ne_up q) leaf).trans
        (not_congr ⟨fun rests => ⟨_, _, named, removed, rests⟩, ?_⟩)
      rintro ⟨place, v, named', -, rests⟩
      cases named.symm.trans named'
      exact rests
    | clearNothing absent =>
      refine iff_of_true rfl ?_
      rintro ⟨place, v, -, removed, -⟩
      cases absent.symm.trans removed
    | clearRefused refused _ =>
      refine iff_of_true rfl ?_
      rintro ⟨place, v, -, removed, -⟩
      cases refused.symm.trans removed
  | cleared _ => exact own.elim
  | started => exact own.elim
  | watched _ _ =>
    refine iff_of_true ?_ id
    cases takes <;> rfl
  | produced p w => exact absurd rfl (early p w)

/-- A stage that starts no program and does not deliver the document changes what is seen of it only
by disturbing it. -/
theorem Takes.disturbs (takes : b.Takes x probe place pr s₁ t s₂)
    (reach : b.Reaches x probe place source s pr s₁) (own : pr.IsOwn)
    (undelivered : ∀ document log, t ≠ .delivered document log)
    (changed : s₂.host.sight q.document ≠ s₁.host.sight q.document) : pr.Disturbs q s₁ := by
  by_cases late : ∃ p w, pr = .produced p w
  · obtain ⟨p, w, rfl⟩ := late
    have same (kept : s₂.host = s₁.host) : s₂.host.sight q.document = s₁.host.sight q.document := by
      rw [kept]
    cases takes with
    | deliver placed => exact absurd rfl (undelivered _ _)
    | deliverRefused placed | deliverBroken placed =>
      exact (halts_of_place reach.isClean placed).resolve_left (mt same changed)
  · have early p w (same : pr = .produced p w) : False := late ⟨p, w, same⟩
    exact Classical.not_not.mp (mt (takes.sight_iff own early).mpr changed)

/-- What the programs of a build keep is kept by the stages that start them. -/
theorem Takes.keeps {P : Host → Prop} {limit : Seconds} {relocate : Relocation}
    (answers : ∀ launch image h, P h →
      P { h with volume := (x.answers limit launch image h.volume).2 })
    (runs : ∀ launch image h, P h →
      P { h with volume := (x.runs b.limit launch image h.volume).volume })
    (takes : b.Takes x (x.probe limit) relocate pr s₁ t s₂) (foreign : ¬ pr.IsOwn)
    (held : P s₁.host) : P s₂.host := by
  cases pr with
  | cleared p =>
    have searched := Search.keeps_resolve (q := b.search)
      (fun command => Programs.keeps_probe command answers) s₁ held
    cases takes with
    | start search _ => rwa [search] at searched
    | startRefused search _ => rwa [search] at searched
    | startBroken search _ _ => rwa [search] at searched
    | searchBroken search => rwa [search] at searched
  | started p launch image =>
    have ran : P (b.watched x launch image s₁).2.host := runs launch image s₁.host held
    cases takes with
    | watch _ seen _ => rwa [seen] at ran
    | watchInterrupted _ seen _ _ => rwa [seen] at ran
    | nameBroken _ seen _ _ => rwa [seen] at ran
    | watchEscaped _ seen _ => rwa [seen] at ran
    | watchUnending _ seen _ _ => rwa [seen] at ran
    | limitBroken _ => exact runs launch image s₁.host held
  | _ => exact absurd trivial foreign

/-- A stage that the build comes to changes what is seen of the document, and it is one of those
that disturb it. -/
def Disturbed (b : Builder) (x : Programs) (probe : Probe) (source : Path) (s : Session)
    (q : Path) : Prop :=
  ∃ pr s₁ t s₂, b.Reaches x probe place source s pr s₁ ∧ b.Takes x probe place pr s₁ t s₂ ∧
    pr.Disturbs q s₁ ∧ s₂.host.sight q.document ≠ s₁.host.sight q.document

/-- Whatever the failure, a build leaves what is seen of the document beside a source, its own or
another one, as it was before, unless a stage of its own disturbs that. -/
theorem compile_spares_document (q : Path)
    (returned : (b.compile x probe place source).runOn s = (.ok r, s')) (failed : r.success = false)
    (programs : ∀ pr s₁ t s₂, b.Reaches x probe place source s pr s₁ →
      b.Takes x probe place pr s₁ t s₂ → ¬ pr.IsOwn →
        s₂.host.sight q.document = s₁.host.sight q.document) :
    s'.host.sight q.document = s.host.sight q.document ∨ b.Disturbed x probe source s q := by
  by_cases disturbed : b.Disturbed x probe source s q
  · exact .inr disturbed
  refine .inl ?_
  have step {pr s₁ t s₂} (reach : b.Reaches x probe place source s pr s₁)
      (takes : b.Takes x probe place pr s₁ t s₂)
      (undelivered : ∀ document log, t ≠ .delivered document log) :
      s₂.host.sight q.document = s₁.host.sight q.document := by
    by_cases own : pr.IsOwn
    · by_contra changed
      exact disturbed
        ⟨pr, s₁, t, s₂, reach, takes, takes.disturbs reach own undelivered changed, changed⟩
    · exact programs pr s₁ t s₂ reach takes own
  have every {pr s₁} (reach : b.Reaches x probe place source s pr s₁) :
      s₁.host.sight q.document = s.host.sight q.document := by
    induction reach with
    | begun => rfl
    | next before onward ih => exact (step before onward nofun).trans ih
  obtain ⟨s₂, ds, notices, ends, -, -, rfl⟩ := runOn_compile_eq_ok_iff.mp returned
  obtain ⟨pr, s₁, reach, ⟨problem, takes, -⟩ | ⟨p, w, -, -, built⟩⟩ := ends.decided
  · exact (step reach takes nofun).trans (every reach)
  · rw [BuildResult.success, built] at failed
    cases failed

theorem compile_spares_document_desk :
    let q := Path.ofString "/s/cv.tex"
    let probe := Job.idle.probe (.whole 5)
    let run := (deskBuilder.compile Job.idle probe place q).runOn deskBuilt
    deskBuilt.host.content? q.document = some ⟨[37], 0o644⟩ ∧
      run.1.toOption.bind BuildResult.failure? = some .compilation ∧
      (run.2.host.sight q.document = deskBuilt.host.sight q.document ∨
        deskBuilder.Disturbed Job.idle probe q deskBuilt q) := by
  intro q probe run
  have returned : run =
      (.ok ⟨.failed .compilation "Compilation failed - no PDF generated", "\n", .zero⟩, run.2) :=
    Act.runOn_eq_ok (by decide +kernel)
  have content : deskBuilt.host.content? q.document = some ⟨[37], 0o644⟩ := by decide +kernel
  have kind : run.1.toOption.bind BuildResult.failure? = some .compilation := by
    rw [returned]
    rfl
  refine ⟨content, kind, compile_spares_document q returned rfl ?_⟩
  intro pr s₁ t s₂ _ takes foreign
  have same : s₂.host = s₁.host :=
    takes.keeps (P := (· = s₁.host)) (fun _ _ _ => id) (fun _ _ _ => id) foreign rfl
  rw [same]

/-- Builds with an engine that is not there, which is to work in a directory. -/
def lostBuilder (directory : String) : Builder :=
  ⟨⟨"/none", some [], "linux"⟩, some (Path.ofString directory), none, false⟩

/-- Where the engine is to work in the directory of the source, a build removes the document of
the last one first, and then fails for an engine that is not there. Where it is to work in the place
of the document, a build leaves a directory there. Where the document may be written but not given
permission bits, it has been overwritten when that is refused. No program touches any of them. -/
theorem compile_disturbs_document :
    let q := Path.ofString "/s/cv.tex"
    let idle := Job.idle.probe (.whole 5)
    let removes := ((lostBuilder "/s").compile Job.idle idle place q).runOn deskBuilt
    let makes := ((lostBuilder "/s/cv.pdf").compile Job.idle idle place q).runOn desk
    let overwrites := (deskBuilder.compile greeting (greeting.probe (.whole 5)) place q).runOn deskLent
    (deskBuilt.host.content? q.document = some ⟨[37], 0o644⟩ ∧
      removes.1.toOption.bind BuildResult.failure? = some .toolMissing ∧ removes.2.asked = [] ∧
      removes.2.host.sight q.document = (none, none)) ∧
    (desk.host.sight q.document = (none, none) ∧
      makes.1.toOption.bind BuildResult.failure? = some .toolMissing ∧ makes.2.asked = [] ∧
      (makes.2.host.named? q.document).isSome = true) ∧
    deskLent.host.content? q.document = some ⟨[80], 0o666⟩ ∧
      overwrites.1.toOption.bind BuildResult.failure? = some .relocation ∧
      overwrites.2.host.content? q.document = some ⟨[37], 0o666⟩ := by
  decide +kernel

end Builder

end TexBuild
