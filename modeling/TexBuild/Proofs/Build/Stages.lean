import TexBuild.Proofs.Build.Progress

namespace TexBuild

/-- What a stage makes of a build that goes on with `next` after it. -/
def Turn.ofStage {α : Type} (next : α → Progress) : Except Fault (Except Problem α) → Turn
  | .ok (.ok a) => .onward (next a)
  | .ok (.error problem) => .failed problem ""
  | .error f => .broken f

namespace Builder

variable (b : Builder) (x : Programs) (probe : Probe) (relocate : Relocation)

/-- A path that is refused is a problem of the build; another fault ends it. -/
theorem runOn_plan (source : Path) (s : Session) :
    (b.plan source).runOn s =
      match b.planAt s.host source with
      | .ok p => (.ok (.ok p), s)
      | .error f => if f.isRefusal then (.ok (.error (.paths f)), s) else (.error f, s) := by
  unfold plan
  rw [Stage.runOn_bind_host]
  change (match b.planAt s.host source with
    | .ok p => pure p
    | .error f =>
      if f.isRefusal then throw (Problem.paths f) else Stage.fault f : Stage Plan).runOn s = _
  cases b.planAt s.host source with
  | ok p => rfl
  | error f => by_cases refusal : f.isRefusal = true <;> simp [refusal]

theorem takes_begun (source : Path) (s : Session) :
    let stage : Stage Plan := do
      let p ← b.plan source
      Act.tellAll (Report.start p.source p.directory)
      return p
    b.Takes x probe relocate (.begun source) s (.ofStage .planned (stage.runOn s).1)
      (stage.runOn s).2 := by
  dsimp only
  rw [Stage.runOn_bind, runOn_plan]
  cases paths : b.planAt s.host source with
  | ok p => exact .plan paths
  | error f =>
    dsimp only
    cases refusal : f.isRefusal with
    | true => exact .planRefused paths refusal
    | false => exact .planBroken paths refusal

theorem takes_planned (p : Plan) (s : Session) :
    b.Takes x probe relocate (.planned p) s
      (.ofStage (fun _ => .prepared p) ((prepare p).runOn s).1) ((prepare p).runOn s).2 := by
  unfold prepare
  rw [Stage.runOn_bind_host]
  rcases made : s.host.makeDirectories p.directory with ⟨v, (cause | _) | _⟩
  · exact .prepareRefused made
  · exact .prepareBroken made
  · exact .prepare made

theorem takes_prepared (p : Plan) (s : Session) :
    b.Takes x probe relocate (.prepared p) s
      (.ofStage (fun _ => .sourced p) ((checkSource p).runOn s).1)
      ((checkSource p).runOn s).2 := by
  unfold checkSource
  rw [Stage.runOn_bind_host]
  rcases found : s.host.isFile p.source with cause | _ | _
  · exact .sourceBroken found
  · exact .sourceMissing found
  · exact .source found

/-- A document of an earlier build that cannot be removed is a problem of the build. -/
theorem runOn_clear_of_refused {p : Plan} {s : Session} {e : Errno}
    (removed : s.host.volume.unlink s.host.cwd p.artifact.text = .error e)
    (present : e ≠ .noEntry) :
    (clear p).runOn s = (.ok (.error (.stale p.artifact (.about e p.artifact.text))), s) := by
  unfold clear
  rw [Stage.runOn_bind_host, removed]
  cases e <;> first | rfl | exact absurd rfl present

theorem takes_sourced (p : Plan) (s : Session) :
    b.Takes x probe relocate (.sourced p) s
      (.ofStage (fun _ => .cleared p) ((clear p).runOn s).1) ((clear p).runOn s).2 := by
  rcases removed : s.host.volume.unlink s.host.cwd p.artifact.text with e | v
  · by_cases absent : e = .noEntry
    · unfold clear
      rw [Stage.runOn_bind_host, removed, absent]
      exact .clearNothing (absent ▸ removed)
    · rw [runOn_clear_of_refused removed absent]
      exact .clearRefused removed absent
  · unfold clear
    rw [Stage.runOn_bind_host, removed]
    exact .clear removed

/-- The engine is started as it is found, and a launch that the system refuses is a problem of the
build. -/
theorem runOn_engine (p : Plan) (s : Session) :
    (b.engine probe p).runOn s =
      match (b.search.resolve probe).runOn s with
      | (.error f, s') => (.error f, s')
      | (.ok tool, s') =>
        let launch := p.launch tool s'.host.environment
        let s'' := s'.telling (engineNotices p tool)
        match launch.start s'.host.volume with
        | .ok image => (.ok (.ok (launch, image)), s'')
        | .error (.system cause) => (.ok (.error (.start tool.command cause)), s'')
        | .error f => (.error f, s'') := by
  unfold engine
  rw [Stage.runOn_bind, Stage.runOn_lift]
  obtain ⟨f | tool, s'⟩ := (b.search.resolve probe).runOn s
  · rfl
  · simp only [Stage.runOn_bind, Stage.runOn_lift, Act.runOn_tell, Act.runOn_host,
      Session.host_telling, Session.telling_telling]
    cases (p.launch tool s'.host.environment).start s'.host.volume with
    | ok image => rfl
    | error f => cases f <;> rfl

theorem takes_cleared (p : Plan) (s : Session) :
    b.Takes x probe relocate (.cleared p) s
      (.ofStage (fun run => .started p run.1 run.2) ((b.engine probe p).runOn s).1)
      ((b.engine probe p).runOn s).2 := by
  rw [runOn_engine]
  rcases search : (b.search.resolve probe).runOn s with ⟨f | tool, s'⟩
  · exact .searchBroken search
  dsimp only
  rcases start : (p.launch tool s'.host.environment).start s'.host.volume with f | image
  · cases f with
    | system cause => exact .startRefused search start
    | _ => exact .startBroken search start nofun
  · exact .start search start

/-- What the engine does to the volume is done where it is watched. -/
theorem runOn_watch (launch : Launch) (image : Image) (s : Session) :
    (b.watch x launch image).runOn s =
      let episode := x.runs b.limit launch image s.host.volume
      match b.meetLimit episode.events with
      | .error e => (.error (.span e), s.withVolume episode.volume)
      | .ok _ =>
        match b.watched x launch image s with
        | (w, s') =>
          match w.phase with
          | .over _ => (.ok w, s')
          | .escaped => (.error .cancelled, s')
          | _ => (.error .unending, s') := by
  unfold watch watched
  rw [Act.runOn_bind, Act.runOn_host]
  dsimp only
  rw [Act.runOn_bind, Act.runOn_setVolume]
  dsimp only
  rw [Act.runOn_bind, Act.runOn_ofExcept]
  cases b.meetLimit (x.runs b.limit launch image s.host.volume).events with
  | error e => rfl
  | ok _ =>
    simp only [mapError_ok]
    generalize Supervision.run (x.runs b.limit launch image s.host.volume).events = w
    unfold Supervision.leftoverNotices
    cases w.incomplete with
    | true => cases w.phase <;> rfl
    | false =>
      rw [if_neg Bool.false_ne_true, if_neg Bool.false_ne_true, Session.telling_nil]
      cases w.phase <;> rfl

theorem runOn_conclude_of_interrupted {p : Plan} {w : Supervision} {why : Interruption}
    (ended : w.phase = .over (some why)) (s : Session) :
    (b.conclude relocate p w).runOn s =
      match b.nameLimit why with
      | .ok _ => (.ok (.error (.interrupted why b.limit)), s)
      | .error e => (.error (.span e), s) := by
  unfold conclude
  rw [ended]
  dsimp only
  cases b.nameLimit why <;> rfl

theorem runOn_conclude {p : Plan} {w : Supervision} (ended : w.phase = .over none) (s : Session) :
    (b.conclude relocate p w).runOn s =
      let s' := s.telling [endNotice w]
      match s.host.isFile p.artifact with
      | .ok true =>
        match (relocate p.artifact p.destination).runOn s' with
        | (.ok _, s'') => (.ok (.ok p.destination), s'')
        | (.error (.relocation cause), s'') => (.ok (.error (.relocation cause)), s'')
        | (.error f, s'') => (.error f, s'')
      | .ok false => (.ok (.error .nothingBuilt), s')
      | .error cause => (.error (.system cause), s') := by
  unfold conclude
  rw [ended]
  dsimp only
  rw [Stage.runOn_bind, Stage.runOn_lift, Act.runOn_tell]
  dsimp only
  rw [Stage.runOn_bind_host, Session.host_telling]
  rcases s.host.isFile p.artifact with cause | _ | _
  · rfl
  · rfl
  · dsimp only
    rw [Stage.runOn_bind, Stage.runOn_lift, Act.runOn_attempt]
    obtain ⟨f | _, s''⟩ := (relocate p.artifact p.destination).runOn (s.telling [endNotice w])
    · cases f <;> rfl
    · rfl

/-- The stages so far are those of the build: it goes on with `next`, or has ended with one of
its turns. -/
def Covers (source : Path) (s : Session) {α : Type} (next : α → Progress) :
    Except Fault (Except Problem α) × Session → Prop
  | (.ok (.ok a), s') => b.Reaches x probe relocate source s (next a) s'
  | (.ok (.error problem), s') =>
    ∃ pr s₁, b.Reaches x probe relocate source s pr s₁ ∧
      b.Takes x probe relocate pr s₁ (.failed problem "") s'
  | (.error f, s') =>
    ∃ pr s₁, b.Reaches x probe relocate source s pr s₁ ∧
      b.Takes x probe relocate pr s₁ (.broken f) s'

variable {b x probe relocate} {source : Path} {s s₁ : Session} {pr : Progress} {α β : Type}

/-- A stage is covered together with what comes after it if each of them is. -/
theorem Covers.bind {next : α → Progress} {last : β → Progress} {stage : Stage α}
    {rest : α → Stage β} (reach : b.Reaches x probe relocate source s pr s₁)
    (takes : b.Takes x probe relocate pr s₁ (.ofStage next (stage.runOn s₁).1) (stage.runOn s₁).2)
    (go : ∀ a s₂, b.Reaches x probe relocate source s (next a) s₂ →
      b.Covers x probe relocate source s last ((rest a).runOn s₂)) :
    b.Covers x probe relocate source s last ((stage >>= rest).runOn s₁) := by
  rw [Stage.runOn_bind]
  generalize stage.runOn s₁ = ran at takes ⊢
  obtain ⟨f | problem | a, s₂⟩ := ran
  · exact ⟨pr, s₁, reach, takes⟩
  · exact ⟨pr, s₁, reach, takes⟩
  · exact go a s₂ (reach.next takes)

theorem covers_begin :
    b.Covers x probe relocate source s (fun run => .started run.1 run.2.1 run.2.2)
      ((b.begin probe source).runOn s) := by
  have regroup : b.begin probe source = (do
      let p ← (do
        let p ← b.plan source
        Act.tellAll (Report.start p.source p.directory)
        return p : Stage Plan)
      prepare p
      checkSource p
      clear p
      let run ← b.engine probe p
      return (p, run.1, run.2)) := by
    unfold begin
    simp only [bind_assoc, pure_bind]
  rw [regroup]
  refine .bind .begun (takes_begun ..) fun p s₁ planned => ?_
  refine .bind planned (takes_planned ..) fun _ s₂ prepared => ?_
  refine .bind prepared (takes_prepared ..) fun _ s₃ sourced => ?_
  refine .bind sourced (takes_sourced ..) fun _ s₄ cleared => ?_
  exact .bind cleared (takes_cleared ..) fun run s₅ started => started

/-- An engine that has ended by itself leaves two stages. -/
theorem ends_conclude {p : Plan} {w : Supervision} (ended : w.phase = .over none)
    (reach : b.Reaches x probe relocate source s (.watched p w) s₁) :
    match (b.conclude relocate p w).runOn s₁ with
    | (.ok (.ok document), s₂) =>
      b.Ends x probe relocate source s (.ok ⟨.built document, w.log, s.timing.elapsed⟩, s₂)
    | (.ok (.error problem), s₂) =>
      b.Ends x probe relocate source s (.ok (problem.result w.log s.timing.elapsed), s₂)
    | (.error f, s₂) => b.Ends x probe relocate source s (.error f, s₂) := by
  rw [runOn_conclude _ _ ended]
  dsimp only
  rcases found : s₁.host.isFile p.artifact with cause | _ | _
  · exact .last reach (.produceBroken found) rfl
  · exact .last reach (.produceNothing found) rfl
  have produced : b.Reaches x probe relocate source s (.produced p w) (s₁.telling [endNotice w]) :=
    reach.next (.produce found)
  generalize s₁.telling [endNotice w] = s₂ at produced ⊢
  rcases placed : (relocate p.artifact p.destination).runOn s₂ with ⟨f | _, s₃⟩
  · cases f with
    | relocation cause => exact .last produced (.deliverRefused placed) rfl
    | _ => exact .last produced (.deliverBroken placed fun _ same => by cases same) rfl
  · exact .last produced (.deliver placed) rfl

/-- Every build ends after some of its stages. -/
theorem ends_build :
    b.Ends x probe relocate source s ((b.build x probe relocate source).runOn s) := by
  have first : b.Covers x probe relocate source s _ _ := covers_begin
  unfold build
  rw [Act.runOn_bind, Act.runOn_elapsed]
  dsimp only
  rw [Act.runOn_bind, Stage.runOn_run]
  generalize (b.begin probe source).runOn s = ran at first ⊢
  obtain ⟨f | problem | ⟨p, launch, image⟩, s₁⟩ := ran
  · obtain ⟨pr, s₀, reach, takes⟩ := first
    exact .last reach takes rfl
  · obtain ⟨pr, s₀, reach, takes⟩ := first
    exact .last reach takes rfl
  have started : b.Reaches x probe relocate source s (.started p launch image) s₁ := first
  dsimp only
  rw [Act.runOn_bind, runOn_watch]
  cases limit : b.meetLimit (x.runs b.limit launch image s₁.host.volume).events with
  | error e =>
    dsimp only
    rw [limit]
    exact .last started (.limitBroken limit) rfl
  | ok _ =>
    rcases seen : b.watched x launch image s₁ with ⟨w, s₂⟩
    dsimp only
    rw [limit]
    dsimp only
    cases phase : w.phase with
    | «over» why =>
      dsimp only
      rw [Act.runOn_bind, Stage.runOn_run]
      cases why with
      | some why =>
        rw [runOn_conclude_of_interrupted _ _ phase]
        cases named : b.nameLimit why with
        | ok _ => exact .last started (.watchInterrupted limit seen phase named) rfl
        | error e => exact .last started (.nameBroken limit seen phase named) rfl
      | none =>
        have rest := ends_conclude phase (started.next (.watch limit seen phase))
        generalize (b.conclude relocate p w).runOn s₂ = ran at rest ⊢
        obtain ⟨f | problem | document, s₃⟩ := ran <;> exact rest
    | escaped => exact .last started (.watchEscaped limit seen phase) rfl
    | _ => exact .last started (.watchUnending limit seen (by simp [phase]) (by simp [phase])) rfl

/-- How a build ends is how its stages end. -/
theorem ends_iff {o : Except Fault BuildResult × Session} :
    b.Ends x probe relocate source s o ↔ (b.build x probe relocate source).runOn s = o :=
  ⟨fun ends => ends_build.unique ends, fun same => same ▸ ends_build⟩

end Builder

end TexBuild
