import TexBuild.Proofs.Session

namespace TexBuild

/-- How far a build has come: nothing is done; the paths are known; the directory is there;
the source is; no earlier document is in the way; the engine runs; it has ended by itself; it
has left a document. -/
inductive Progress where
  | begun (source : Path)
  | planned (p : Plan)
  | prepared (p : Plan)
  | sourced (p : Plan)
  | cleared (p : Plan)
  | started (p : Plan) (launch : Launch) (image : Image)
  | watched (p : Plan) (w : Supervision)
  | produced (p : Plan) (w : Supervision)

/-- What comes of the next stage of a build: the build goes on, fails with what the engine
wrote, is complete, or ends with a fault. -/
inductive Turn where
  | onward (next : Progress)
  | failed (problem : Problem) (log : String)
  | delivered (document : Path) (log : String)
  | broken (f : Fault)

/-- The result of a build that does not go on and has taken this time. -/
def Turn.result? (elapsed : Seconds) : Turn → Option (Except Fault BuildResult)
  | .onward _ => none
  | .failed problem log => some (.ok (problem.result log elapsed))
  | .delivered document log => some (.ok ⟨.built document, log, elapsed⟩)
  | .broken f => some (.error f)

/-- The place of the next stage among the eight: the paths, the directory, the source, the
document of an earlier build, the start and the end of the engine, its document, the
destination. -/
def Progress.number : Progress → Nat
  | .begun _ => 0
  | .planned _ => 1
  | .prepared _ => 2
  | .sourced _ => 3
  | .cleared _ => 4
  | .started .. => 5
  | .watched .. => 6
  | .produced .. => 7

namespace Supervision

/-- What the engine wrote, as the log of a build. -/
def log (w : Supervision) : String :=
  String.ofList w.output

/-- The record about output that was not awaited to its end. -/
def leftoverNotices (w : Supervision) : List Notice :=
  if w.incomplete then
    [Notice.build .warning "Compiler output incomplete: pipes still open after kill"]
  else []

end Supervision

namespace Builder

/-- The paths of a build, as the host gives them. -/
def planAt (b : Builder) (h : Host) (source : Path) : Except Fault Plan := do
  let source ← h.resolve source
  let directory ← h.buildDirectory b.directory
  return ⟨source, directory⟩

/-- The records about an engine that is about to be started. -/
def engineNotices (p : Plan) (tool : Tool) : List Notice :=
  [Notice.build .debug tool.describe,
    Notice.build .debug ("  Command: " ++ " ".intercalate (tool.commandLine p.source p.directory))]

variable (b : Builder) (x : Programs) (probe : Probe) (relocate : Relocation)

/-- What the watch over an engine comes to, and the volume that the engine leaves. -/
def watched (launch : Launch) (image : Image) (s : Session) : Supervision × Session :=
  let episode := x.runs b.limit launch image s.host.volume
  let w := Supervision.run episode.events
  (w, (s.withVolume episode.volume).telling w.leftoverNotices)

/-- The next stage of a build that has come so far takes this turn and leaves this session. -/
inductive Takes : Progress → Session → Turn → Session → Prop
  | plan {source s p} : b.planAt s.host source = .ok p →
      Takes (.begun source) s (.onward (.planned p)) (s.telling (Report.start p.source p.directory))
  | planRefused {source s f} : b.planAt s.host source = .error f → f.isRefusal = true →
      Takes (.begun source) s (.failed (.paths f) "") s
  | planBroken {source s f} : b.planAt s.host source = .error f → f.isRefusal = false →
      Takes (.begun source) s (.broken f) s
  | prepare {p s v} : s.host.makeDirectories p.directory = (v, .ok ()) →
      Takes (.planned p) s (.onward (.prepared p)) (s.withVolume v)
  | prepareRefused {p s v cause} : s.host.makeDirectories p.directory = (v, .error (.refused cause)) →
      Takes (.planned p) s (.failed (.directory p.directory cause) "") (s.withVolume v)
  | prepareBroken {p s v} : s.host.makeDirectories p.directory = (v, .error .tooDeep) →
      Takes (.planned p) s (.broken .stackOverflow) (s.withVolume v)
  | source {p s} : s.host.isFile p.source = .ok true →
      Takes (.prepared p) s (.onward (.sourced p)) s
  | sourceMissing {p s} : s.host.isFile p.source = .ok false →
      Takes (.prepared p) s (.failed (.noSource p.source) "") s
  | sourceBroken {p s cause} : s.host.isFile p.source = .error cause →
      Takes (.prepared p) s (.broken (.system cause)) s
  | clear {p s v} : s.host.volume.unlink s.host.cwd p.artifact.text = .ok v →
      Takes (.sourced p) s (.onward (.cleared p)) (s.withVolume v)
  | clearNothing {p s} : s.host.volume.unlink s.host.cwd p.artifact.text = .error .noEntry →
      Takes (.sourced p) s (.onward (.cleared p)) s
  | clearRefused {p s e} : s.host.volume.unlink s.host.cwd p.artifact.text = .error e →
      e ≠ .noEntry →
      Takes (.sourced p) s (.failed (.stale p.artifact (.about e p.artifact.text)) "") s
  | start {p s s' tool image} : (b.search.resolve probe).runOn s = (.ok tool, s') →
      (p.launch tool s'.host.environment).start s'.host.volume = .ok image →
      Takes (.cleared p) s (.onward (.started p (p.launch tool s'.host.environment) image))
        (s'.telling (engineNotices p tool))
  | startRefused {p s s' tool cause} : (b.search.resolve probe).runOn s = (.ok tool, s') →
      (p.launch tool s'.host.environment).start s'.host.volume = .error (.system cause) →
      Takes (.cleared p) s (.failed (.start tool.command cause) "")
        (s'.telling (engineNotices p tool))
  | startBroken {p s s' tool f} : (b.search.resolve probe).runOn s = (.ok tool, s') →
      (p.launch tool s'.host.environment).start s'.host.volume = .error f →
      (∀ cause, f ≠ .system cause) →
      Takes (.cleared p) s (.broken f) (s'.telling (engineNotices p tool))
  | searchBroken {p s s' f} : (b.search.resolve probe).runOn s = (.error f, s') →
      Takes (.cleared p) s (.broken f) s'
  | watch {p launch image s w s'} :
      b.meetLimit (x.runs b.limit launch image s.host.volume).events = .ok () →
      b.watched x launch image s = (w, s') → w.phase = .over none →
      Takes (.started p launch image) s (.onward (.watched p w)) s'
  | watchInterrupted {p launch image s w s' why} :
      b.meetLimit (x.runs b.limit launch image s.host.volume).events = .ok () →
      b.watched x launch image s = (w, s') → w.phase = .over (some why) →
      b.nameLimit why = .ok () →
      Takes (.started p launch image) s (.failed (.interrupted why b.limit) w.log) s'
  | nameBroken {p launch image s w s' why e} :
      b.meetLimit (x.runs b.limit launch image s.host.volume).events = .ok () →
      b.watched x launch image s = (w, s') → w.phase = .over (some why) →
      b.nameLimit why = .error e →
      Takes (.started p launch image) s (.broken (.span e)) s'
  | watchEscaped {p launch image s w s'} :
      b.meetLimit (x.runs b.limit launch image s.host.volume).events = .ok () →
      b.watched x launch image s = (w, s') → w.phase = .escaped →
      Takes (.started p launch image) s (.broken .cancelled) s'
  | watchUnending {p launch image s w s'} :
      b.meetLimit (x.runs b.limit launch image s.host.volume).events = .ok () →
      b.watched x launch image s = (w, s') → (∀ why, w.phase ≠ .over why) → w.phase ≠ .escaped →
      Takes (.started p launch image) s (.broken .unending) s'
  | limitBroken {p launch image s e} :
      b.meetLimit (x.runs b.limit launch image s.host.volume).events = .error e →
      Takes (.started p launch image) s (.broken (.span e))
        (s.withVolume (x.runs b.limit launch image s.host.volume).volume)
  | produce {p w s} : s.host.isFile p.artifact = .ok true →
      Takes (.watched p w) s (.onward (.produced p w)) (s.telling [endNotice w])
  | produceNothing {p w s} : s.host.isFile p.artifact = .ok false →
      Takes (.watched p w) s (.failed .nothingBuilt w.log) (s.telling [endNotice w])
  | produceBroken {p w s cause} : s.host.isFile p.artifact = .error cause →
      Takes (.watched p w) s (.broken (.system cause)) (s.telling [endNotice w])
  | deliver {p w s s'} : (relocate p.artifact p.destination).runOn s = (.ok (), s') →
      Takes (.produced p w) s (.delivered p.destination w.log) s'
  | deliverRefused {p w s s' cause} :
      (relocate p.artifact p.destination).runOn s = (.error (.relocation cause), s') →
      Takes (.produced p w) s (.failed (.relocation cause) w.log) s'
  | deliverBroken {p w s s' f} : (relocate p.artifact p.destination).runOn s = (.error f, s') →
      (∀ cause, f ≠ .relocation cause) → Takes (.produced p w) s (.broken f) s'

/-- A build of a source that begins in a session comes so far and leaves this session then. -/
inductive Reaches (source : Path) (s : Session) : Progress → Session → Prop
  | begun : Reaches source s (.begun source) s
  | next {pr pr' s₁ s₂} : Reaches source s pr s₁ →
      b.Takes x probe relocate pr s₁ (.onward pr') s₂ → Reaches source s pr' s₂

/-- A build of a source that begins in a session ends like this. -/
inductive Ends (source : Path) (s : Session) : Except Fault BuildResult × Session → Prop
  | last {pr s₁ t s₂ o} : b.Reaches x probe relocate source s pr s₁ →
      b.Takes x probe relocate pr s₁ t s₂ → t.result? s.timing.elapsed = some o →
      Ends source s (o, s₂)

variable {b x probe relocate} {source : Path} {s s₁ s₂ s₃ : Session} {pr pr' : Progress}
  {t t' : Turn}

theorem Takes.number_eq (onward : b.Takes x probe relocate pr s₁ (.onward pr') s₂) :
    pr'.number = pr.number + 1 := by
  cases onward <;> rfl

theorem Takes.unique (takes : b.Takes x probe relocate pr s₁ t s₂)
    (other : b.Takes x probe relocate pr s₁ t' s₃) : t = t' ∧ s₂ = s₃ := by
  cases takes <;> cases other <;> grind

theorem Reaches.unique (reach : b.Reaches x probe relocate source s pr s₁)
    (other : b.Reaches x probe relocate source s pr' s₂) (same : pr.number = pr'.number) :
    pr = pr' ∧ s₁ = s₂ := by
  induction reach generalizing pr' s₂ with
  | begun =>
    cases other with
    | begun => exact ⟨rfl, rfl⟩
    | next _ onward =>
      have later := onward.number_eq
      have start : (Progress.begun source).number = 0 := rfl
      omega
  | next _ onward ih =>
    have later := onward.number_eq
    cases other with
    | begun =>
      have start : (Progress.begun source).number = 0 := rfl
      omega
    | next before onward' =>
      have later' := onward'.number_eq
      obtain ⟨rfl, rfl⟩ := ih before (by omega)
      obtain ⟨same, rfl⟩ := onward.unique onward'
      exact ⟨Turn.onward.inj same, rfl⟩

/-- All stages before one that is reached went well. -/
theorem Reaches.earlier (reach : b.Reaches x probe relocate source s pr s₁) {k : Nat}
    (before : k < pr.number) :
    ∃ pr' next s₂ s₃, pr'.number = k ∧ b.Reaches x probe relocate source s pr' s₂ ∧
      b.Takes x probe relocate pr' s₂ (.onward next) s₃ := by
  induction reach with
  | begun => exact absurd before (Nat.not_lt_zero k)
  | @next pr pr' s₁ s₂ previous onward ih =>
    have later := onward.number_eq
    by_cases last : k = pr.number
    · exact ⟨pr, pr', s₁, s₂, last.symm, previous, onward⟩
    · exact ih (by omega)

/-- Where a build ends, nothing comes after. -/
theorem Reaches.number_le_of_last {o : Except Fault BuildResult}
    (reach : b.Reaches x probe relocate source s pr s₁)
    (takes : b.Takes x probe relocate pr s₁ t s₂) (result : t.result? s.timing.elapsed = some o)
    (other : b.Reaches x probe relocate source s pr' s₃) : pr'.number ≤ pr.number := by
  refine Nat.le_of_not_lt fun beyond => ?_
  obtain ⟨before, next, s₄, s₅, same, there, onward⟩ := other.earlier beyond
  obtain ⟨rfl, rfl⟩ := there.unique reach same
  obtain ⟨rfl, -⟩ := takes.unique onward
  cases result

/-- A build has one end. -/
theorem Ends.unique {o o' : Except Fault BuildResult × Session}
    (ends : b.Ends x probe relocate source s o) (other : b.Ends x probe relocate source s o') :
    o = o' := by
  cases ends with
  | last reach takes result =>
    cases other with
    | last reach' takes' result' =>
      have same := Nat.le_antisymm (reach'.number_le_of_last takes' result' reach)
        (reach.number_le_of_last takes result reach')
      obtain ⟨rfl, rfl⟩ := reach.unique reach' same
      obtain ⟨rfl, rfl⟩ := takes.unique takes'
      rw [Option.some.inj (result.symm.trans result')]

end Builder

end TexBuild
