import TexBuild.Proofs.Build.Leftover
import TexBuild.Proofs.Build.Return
import TexBuild.Proofs.Build.Watch

namespace TexBuild

/-- The kind of failure that an interruption is. -/
def Interruption.failure : Interruption → Failure
  | .deadline => .timeout
  | .cancellation => .cancelled

theorem Interruption.failure_injective {why why' : Interruption}
    (same : why.failure = why'.failure) : why = why' := by
  cases why <;> cases why' <;> first | rfl | cases same

theorem Problem.failure_interrupted {why : Interruption} {limit : Option Seconds} :
    (Problem.interrupted why limit).failure = why.failure := by
  cases why <;> rfl

namespace Builder

variable {b : Builder} {x : Programs} {probe : Probe} {relocate : Relocation} {source : Path}
  {s s₁ s₂ s' : Session} {pr : Progress} {p : Plan} {launch : Launch} {image : Image}
  {r : BuildResult}

theorem reported_ne_cancelled : b.reported source r ≠ .error .cancelled := by
  unfold reported findings
  cases Diagnostic.parse r.rawLog.toList with
  | error e => exact fun same => by cases same
  | ok ds =>
    change (Report.result source.nameText r ds b.verbose).mapError Fault.span ≠ _
    cases Report.result source.nameText r ds b.verbose <;> exact fun same => by cases same

/-- Once the engine was started, only the watch over it lets a cancellation through. -/
theorem Takes.of_cancelled (takes : b.Takes x probe place pr s₁ (.broken .cancelled) s₂)
    (reach : b.Reaches x probe place source s pr s₁) (running : 5 ≤ pr.number) :
    ∃ p launch image, pr = .started p launch image ∧
      b.meetLimit (x.runs b.limit launch image s₁.host.volume).events = .ok () ∧
      (b.watched x launch image s₁).1.phase = .escaped := by
  cases takes with
  | @watchEscaped p launch image _ w _ limit seen escaped =>
    exact ⟨p, launch, image, rfl, limit, by rw [seen]; exact escaped⟩
  | deliverBroken placed other =>
    obtain ⟨cause, same⟩ := runOn_place_eq_error reach.isClean placed
    cases same
  | planBroken | searchBroken | startBroken => simp [Progress.number] at running

/-- Which builds end with a cancellation that nothing has handled, once their engine was
started. -/
theorem compile_eq_cancelled_iff
    (started : b.Reaches x probe place source s (.started p launch image) s₁) :
    (∃ s', (b.compile x probe place source).runOn s = (.error .cancelled, s')) ↔
      b.meetLimit (x.runs b.limit launch image s₁.host.volume).events = .ok () ∧
        (b.watched x launch image s₁).1.phase = .escaped := by
  rw [runOn_compile]
  constructor
  · rintro ⟨s', raised⟩
    have ends : b.Ends x probe place source s _ := ends_build
    generalize (b.build x probe place source).runOn s = o at ends raised
    obtain ⟨f | r, s₂⟩ := o
    · cases raised
      cases ends with
      | @last pr s₃ t _ _ reach takes result =>
        cases t with
        | broken f =>
          cases result
          have running := reach.number_le_of_last takes rfl started
          obtain ⟨p', launch', image', rfl, limit, escaped⟩ := takes.of_cancelled reach running
          obtain ⟨same, rfl⟩ := started.unique reach rfl
          cases same
          exact ⟨limit, escaped⟩
        | _ => cases result
    · dsimp only at raised
      cases told : b.reported source r with
      | error f =>
        rw [told] at raised
        cases raised
        exact absurd told reported_ne_cancelled
      | ok notices =>
        rw [told] at raised
        cases raised
  · rintro ⟨limit, escaped⟩
    have ends : b.Ends x probe place source s (.error .cancelled, _) :=
      .last started (.watchEscaped limit rfl escaped) rfl
    exact ⟨_, by rw [ends_iff.mp ends]⟩

/-- A build that gives a result has seen the watch over its engine through to the end. -/
theorem Ends.watch_over (ends : b.Ends x probe relocate source s (.ok r, s₂))
    (started : b.Reaches x probe relocate source s (.started p launch image) s₁) :
    b.meetLimit (x.runs b.limit launch image s₁.host.volume).events = .ok () ∧
      ∃ cause, (b.watched x launch image s₁).1.phase = .over cause ∧
        ∀ why, cause = some why → b.nameLimit why = .ok () := by
  cases limit : b.meetLimit (x.runs b.limit launch image s₁.host.volume).events with
  | error e => cases ends.unique (.last started (.limitBroken limit) rfl)
  | ok _ =>
    refine ⟨rfl, ?_⟩
    cases phase : (b.watched x launch image s₁).1.phase with
    | «over» cause =>
      refine ⟨cause, rfl, ?_⟩
      rintro why rfl
      cases named : b.nameLimit why with
      | ok _ => rfl
      | error e => cases ends.unique (.last started (.nameBroken limit rfl phase named) rfl)
    | escaped => cases ends.unique (.last started (.watchEscaped limit rfl phase) rfl)
    | _ =>
      have pending : ∀ why, (b.watched x launch image s₁).1.phase ≠ .over why := by simp [phase]
      have caught : (b.watched x launch image s₁).1.phase ≠ .escaped := by simp [phase]
      cases ends.unique (.last started (.watchUnending limit rfl pending caught) rfl)

/-- A result tells of an interruption exactly if the watch was over by it. -/
theorem Ends.interrupted_iff (ends : b.Ends x probe relocate source s (.ok r, s₂))
    (started : b.Reaches x probe relocate source s (.started p launch image) s₁)
    (why : Interruption) :
    r.failure? = some why.failure ↔
      (b.watched x launch image s₁).1.phase = .over (some why) := by
  constructor
  · intro kind
    obtain ⟨pr, s₃, reach, ⟨problem, takes, among, failed⟩ | ⟨p, w, -, -, built⟩⟩ := ends.decided
    · rw [BuildResult.failure?, failed] at kind
      have same : problem.failure = why.failure := Option.some.inj kind
      rw [same] at among
      cases pr with
      | started p' launch' image' =>
        obtain ⟨same, rfl⟩ := started.unique reach rfl
        cases same
        generalize r.rawLog = log at takes
        cases takes with
        | watchInterrupted limit seen ended named =>
          rw [Problem.failure_interrupted] at same
          rw [seen, ended, Interruption.failure_injective same]
      | _ => cases why <;> simp [Progress.failures, Interruption.failure] at among
    · rw [BuildResult.failure?, built] at kind
      cases kind
  · intro ended
    obtain ⟨limit, cause, ended', named⟩ := ends.watch_over started
    cases ended.symm.trans ended'
    cases ends.unique (.last started (.watchInterrupted limit rfl ended (named why rfl)) rfl)
    exact congrArg some Problem.failure_interrupted

/-- Which builds end with the failure that an interruption is, once their engine was started. -/
theorem compile_interrupted_iff
    (started : b.Reaches x probe place source s (.started p launch image) s₁)
    (why : Interruption) :
    (∃ r s', (b.compile x probe place source).runOn s = (.ok r, s') ∧
        r.failure? = some why.failure) ↔
      b.meetLimit (x.runs b.limit launch image s₁.host.volume).events = .ok () ∧
        (b.watched x launch image s₁).1.phase = .over (some why) ∧ b.nameLimit why = .ok () ∧
        Diagnostic.longReference? (b.watched x launch image s₁).1.output = none := by
  have readable : Diagnostic.longReference? (b.watched x launch image s₁).1.output = none ↔
      ∃ ds, findings (b.watched x launch image s₁).1.log = .ok ds := by
    rw [exists_findings_iff, Supervision.log, String.toList_ofList]
  rw [readable]
  constructor
  · rintro ⟨r, s', returned, kind⟩
    obtain ⟨s₂, ds, notices, ends, read, told, rfl⟩ := runOn_compile_eq_ok_iff.mp returned
    obtain ⟨limit, cause, ended, named⟩ := ends.watch_over started
    have interrupted := (ends.interrupted_iff started why).mp kind
    cases ended.symm.trans interrupted
    refine ⟨limit, interrupted, named why rfl, ds, ?_⟩
    rw [← ends.rawLog_of_started started]
    exact read
  · rintro ⟨limit, ended, named, ds, read⟩
    have ends : b.Ends x probe place source s (.ok _, _) :=
      .last started (.watchInterrupted limit rfl ended named) rfl
    obtain ⟨notices, told⟩ := report_eq_ok source.nameText _ ds b.verbose ends.duration_eq
    exact ⟨_, _, runOn_compile_eq_ok_iff.mpr ⟨_, ds, notices, ends, read, told, rfl⟩,
      (ends.interrupted_iff started why).mpr ended⟩

/-- The limit of an engine whose watch was over is looked at. -/
theorem meetLimit_of_over (b : Builder) {events : List Event} {cause : Option Interruption}
    (ended : (Supervision.run events).phase = .over cause) : b.meetLimit events = b.checkLimit :=
  if_pos (Supervision.begins_of_over ended)

theorem exists_started_of_returned
    (returned : (b.compile x probe relocate source).runOn s = (.ok r, s')) (wrote : r.rawLog ≠ "") :
    ∃ p launch image s₁, b.Reaches x probe relocate source s (.started p launch image) s₁ := by
  obtain ⟨s₂, -, -, ends, -, -, -⟩ := runOn_compile_eq_ok_iff.mp returned
  exact Classical.not_not.mp (mt ends.rawLog_eq_empty_iff.mpr wrote)

/-- An engine that leaves a document of one octet in the directory `b`, and is seen to do this. -/
def showing (events : List Event) : Programs where
  answers := fun _ _ _ v => (true, v)
  shows := fun _ _ _ v => ⟨events, v.putFile Job.deskSpot ⟨[37], 0o644⟩⟩

/-- Builds on the desk with a limit of five seconds. -/
def hastyBuilder : Builder :=
  { deskBuilder with limit := some (.whole 5) }

/-- A cancellation that comes while a build waits for the output of its engine makes it fail as
cancelled. One that comes while it waits for the start of the engine, for what is left of the
output or, after that, for the end of the engine is not handled, and the build gives no result. -/
theorem compile_cancelled_iff
    (started : b.Reaches x probe place source s (.started p launch image) s₁) :
    let events := (x.runs b.limit launch image s₁.host.volume).events
    let w := Supervision.run events
    ((∃ s', (b.compile x probe place source).runOn s = (.error .cancelled, s')) ↔
        b.meetLimit events = .ok () ∧ Supervision.Meets events .cancelled Phase.IsBare) ∧
      ((∃ r s', (b.compile x probe place source).runOn s = (.ok r, s') ∧
          r.failure? = some .cancelled) ↔
        b.meetLimit events = .ok () ∧ Supervision.Meets events .cancelled (· = .reading) ∧
          (∃ why, w.phase = .over why) ∧ Diagnostic.longReference? w.output = none) := by
  intro events w
  constructor
  · rw [← Supervision.phase_run_eq_escaped_iff]
    exact compile_eq_cancelled_iff started
  · refine (compile_interrupted_iff started .cancellation).trans ?_
    change _ ∧ w.phase = _ ∧ _ ∧ _ ↔ _
    rw [Supervision.phase_run_eq_over_iff]
    constructor
    · rintro ⟨limit, ⟨ended, met⟩, -, read⟩
      exact ⟨limit, met, ended, read⟩
    · rintro ⟨limit, met, ended, read⟩
      exact ⟨limit, ⟨ended, met⟩, rfl, read⟩

theorem compile_cancelled_iff_desk :
    let x := showing [.started, .cancelled, .ended (.signal 9), .reaped, .leftoverOver]
    let probe := x.probe (.whole 5)
    let source := Path.ofString "/s/cv.tex"
    ∃ p launch image s₁,
      deskBuilder.Reaches x probe place source desk (.started p launch image) s₁ ∧
      let events := (x.runs deskBuilder.limit launch image s₁.host.volume).events
      let w := Supervision.run events
      ((∃ s', (deskBuilder.compile x probe place source).runOn desk = (.error .cancelled, s')) ↔
          deskBuilder.meetLimit events = .ok () ∧ Supervision.Meets events .cancelled Phase.IsBare) ∧
        ((∃ r s', (deskBuilder.compile x probe place source).runOn desk = (.ok r, s') ∧
            r.failure? = some .cancelled) ↔
          deskBuilder.meetLimit events = .ok () ∧ Supervision.Meets events .cancelled (· = .reading) ∧
            (∃ why, w.phase = .over why) ∧ Diagnostic.longReference? w.output = none) := by
  intro x probe source
  have returned : (deskBuilder.compile x probe place source).runOn desk =
      (.ok ⟨.failed .cancelled "Compilation cancelled", "\n", .zero⟩, _) :=
    Act.runOn_eq_ok (by decide +kernel)
  obtain ⟨p, launch, image, s₁, started⟩ := exists_started_of_returned returned (by decide)
  exact ⟨p, launch, image, s₁, started, compile_cancelled_iff started⟩

/-- A cancellation gets through at each of the three waits that are not guarded: for the start of
the engine, for what is left of its output, and for its end after that. -/
theorem compile_lets_cancellation_through :
    let outcome (events : List Event) : Except Fault BuildResult :=
      ((hastyBuilder.compile (showing events) ((showing events).probe (.whole 5)) place
        (Path.ofString "/s/cv.tex")).runOn desk).1
    outcome [.cancelled] = .error .cancelled ∧
      outcome [.started, .deadline, .cancelled] = .error .cancelled ∧
      outcome [.started, .deadline, .leftoverOver, .cancelled] = .error .cancelled := by
  decide +kernel

/-- A build fails as timed out exactly if the deadline comes while the engine is awaited and one
of three things is still missing: the end of the engine, and the end of each of its streams. The
end of the engine alone is not enough, since what it has started can keep a stream open. -/
theorem compile_timeout_iff
    (started : b.Reaches x probe relocate source s (.started p launch image) s₁)
    (returned : (b.compile x probe relocate source).runOn s = (.ok r, s')) :
    let events := (x.runs b.limit launch image s₁.host.volume).events
    r.failure? = some .timeout ↔
      ∃ before after, events = before ++ .deadline :: after ∧ Supervision.Awaited before ∧
        (Supervision.run before).isComplete = false := by
  intro events
  obtain ⟨s₂, -, -, ends, -, -, -⟩ := runOn_compile_eq_ok_iff.mp returned
  have ended : ∃ cause, (Supervision.run events).phase = .over cause :=
    (ends.watch_over started).2.imp fun _ => And.left
  refine (ends.interrupted_iff started .deadline).trans ?_
  change (Supervision.run events).phase = _ ↔ _
  rw [Supervision.phase_run_eq_over_iff, and_iff_right ended]
  simp only [Supervision.Meets, Supervision.phase_run_eq_reading_iff, Interruption.event]

theorem compile_timeout_iff_desk :
    let x := showing [.started, .deadline, .ended (.signal 9), .reaped, .leftoverOver]
    let probe := x.probe (.whole 5)
    let source := Path.ofString "/s/cv.tex"
    ∃ p launch image s₁ r s',
      hastyBuilder.Reaches x probe place source desk (.started p launch image) s₁ ∧
      (hastyBuilder.compile x probe place source).runOn desk = (.ok r, s') ∧
      let events := (x.runs hastyBuilder.limit launch image s₁.host.volume).events
      (r.failure? = some .timeout ↔
        ∃ before after, events = before ++ .deadline :: after ∧ Supervision.Awaited before ∧
          (Supervision.run before).isComplete = false) := by
  intro x probe source
  have returned : (hastyBuilder.compile x probe place source).runOn desk =
      (.ok ⟨.failed .timeout "Compilation timed out after 5 seconds", "\n", .zero⟩, _) :=
    Act.runOn_eq_ok (by decide +kernel)
  obtain ⟨p, launch, image, s₁, started⟩ := exists_started_of_returned returned (by decide)
  exact ⟨p, launch, image, s₁, _, _, started, returned, compile_timeout_iff started returned⟩

/-- An engine that has ended and left its document before the deadline, but has started something
that keeps its streams open, is reported as timed out. -/
theorem compile_times_out_finished :
    let before := [.started, .ended (.code 0), .reaped]
    let x := showing (before ++ [.deadline, .leftoverOver])
    let run := (hastyBuilder.compile x (x.probe (.whole 5)) place
      (Path.ofString "/s/cv.tex")).runOn desk
    (Supervision.run before).life = .reaped (.code 0) ∧
      run.2.host.volume.isRegular run.2.host.cwd Job.deskPlan.artifact.text = .ok true ∧
      run.1.toOption.bind BuildResult.failure? = some .timeout := by
  decide +kernel

end Builder

end TexBuild
