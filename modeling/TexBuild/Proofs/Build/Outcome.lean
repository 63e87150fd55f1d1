import TexBuild.Proofs.Build.Stages
import TexBuild.Proofs.Number.Clock

namespace TexBuild

/-- The kinds of failure that a build which has come so far can still end with at its next
stage. -/
def Progress.failures : Progress → List Failure
  | .begun _ | .planned _ | .prepared _ | .sourced _ => [.environment]
  | .cleared _ => [.toolMissing]
  | .started .. => [.timeout, .cancelled]
  | .watched .. => [.compilation]
  | .produced .. => [.relocation]

theorem Progress.environment_mem_failures {pr : Progress} :
    .environment ∈ pr.failures ↔ pr.number < 4 := by
  cases pr <;> simp [failures, number]

theorem Supervision.toList_log (w : Supervision) :
    w.log.toList =
      Utf8.decode w.stdout.kept.flatten ++ '\n' :: Utf8.decode w.stderr.kept.flatten := by
  rw [log, String.toList_ofList]
  rfl

theorem Supervision.log_ne_empty (w : Supervision) : w.log ≠ "" := by
  intro empty
  have none : w.log.toList = [] := by rw [empty]; rfl
  rw [toList_log] at none
  simp at none

namespace Problem

theorem append_ne_empty {head : String} (h : head ≠ "") (rest : String) : head ++ rest ≠ "" := by
  rw [ne_eq, String.append_eq_empty_iff]
  exact fun both => h both.1

theorem message_ne_empty (problem : Problem) : problem.message ≠ "" := by
  cases problem with
  | paths cause => exact append_ne_empty (by decide) _
  | directory d cause =>
    exact append_ne_empty (append_ne_empty (append_ne_empty (by decide) _) _) _
  | noSource source => exact append_ne_empty (by decide) _
  | stale artifact cause =>
    exact append_ne_empty (append_ne_empty (append_ne_empty (by decide) _) _) _
  | start command cause =>
    refine append_ne_empty ?_ _
    exact append_ne_empty (append_ne_empty (append_ne_empty (by decide) _) _) _
  | interrupted why limit =>
    cases why with
    | deadline => exact append_ne_empty (append_ne_empty (by decide) _) _
    | cancellation => exact (by decide : "Compilation cancelled" ≠ "")
  | nothingBuilt => decide
  | relocation cause => exact append_ne_empty (append_ne_empty (append_ne_empty (by decide) _) _) _
  | noDocument => decide

end Problem

namespace BuildResult

variable (r : BuildResult)

theorem success_iff_artifact : r.success = true ↔ r.artifact?.isSome = true := by
  unfold success artifact?
  cases r.outcome <;> simp

theorem success_iff_message : r.success = true ↔ r.message? = none := by
  unfold success message?
  cases r.outcome <;> simp

theorem success_iff_failure : r.success = true ↔ r.failure? = none := by
  unfold success failure?
  cases r.outcome <;> simp

/-- The four fields of a result describe its outcome, unless it is a failure without words. -/
theorem ofFields_eq (worded : r.message? ≠ some "") :
    Outcome.ofFields r.success r.artifact? r.message? r.failure? = .ok r.outcome := by
  unfold success artifact? failure?
  unfold message? at worded ⊢
  cases outcome : r.outcome with
  | built path => rfl
  | failed failure message =>
    rw [outcome] at worded
    have words : message ≠ "" := fun empty => worded (by rw [empty])
    simp [Outcome.ofFields, words]

end BuildResult

namespace Builder

variable (b : Builder) (x : Programs) (probe : Probe) (relocate : Relocation)

/-- What the engine of a build has written once its next stage is over. -/
def engineLog : Progress → Session → String
  | .started _ launch image, s => (b.watched x launch image s).1.log
  | .watched _ w, _ | .produced _ w, _ => w.log
  | _, _ => ""

variable {b x probe relocate} {source : Path} {s s₁ s₂ s' : Session} {pr pr' : Progress} {t : Turn}
  {p : Plan} {launch : Launch} {image : Image} {r : BuildResult}

theorem engineLog_eq_empty : b.engineLog x pr s = "" ↔ pr.number < 5 := by
  cases pr <;> simp [engineLog, Progress.number, Supervision.log_ne_empty]

/-- A stage that fails is of one of the kinds that it can be, and keeps what was written. -/
theorem Takes.of_failed {problem : Problem} {log : String}
    (takes : b.Takes x probe relocate pr s₁ (.failed problem log) s₂) :
    problem.failure ∈ pr.failures ∧ log = b.engineLog x pr s₁ := by
  cases takes with
  | @watchInterrupted p launch image _ w _ why limit seen ended named =>
    refine ⟨?_, by rw [engineLog, seen]⟩
    cases why
    · exact .head _
    · exact .tail _ (.head _)
  | _ => exact ⟨.head _, rfl⟩

/-- Only the last stage delivers, and what it delivers is the document beside the source. -/
theorem Takes.of_delivered {document : Path} {log : String}
    (takes : b.Takes x probe relocate pr s₁ (.delivered document log) s₂) :
    ∃ p w, pr = .produced p w ∧ document = p.destination ∧ log = w.log := by
  cases takes
  exact ⟨_, _, rfl, rfl, rfl⟩

/-- What an engine has written stays as it is. -/
theorem Takes.engineLog_eq (onward : b.Takes x probe relocate pr s₁ (.onward pr') s₂)
    (running : 5 ≤ pr.number) : b.engineLog x pr' s₂ = b.engineLog x pr s₁ := by
  cases onward with
  | watch limit seen ended => rw [engineLog, engineLog, seen]
  | produce found => rfl
  | _ => simp [Progress.number] at running

theorem Reaches.engineLog_eq
    (started : b.Reaches x probe relocate source s (.started p launch image) s₁)
    (reach : b.Reaches x probe relocate source s pr s₂) (running : 5 ≤ pr.number) :
    b.engineLog x pr s₂ = (b.watched x launch image s₁).1.log := by
  induction reach with
  | begun => simp [Progress.number] at running
  | @next pr pr' s₂ s₃ before onward ih =>
    have later := onward.number_eq
    -- the engine is started once, so that the first stage with a log is the one that is given
    by_cases first : pr'.number = 5
    · obtain ⟨rfl, rfl⟩ := started.unique (before.next onward) first.symm
      rfl
    · rw [onward.engineLog_eq (by omega), ih (by omega)]

/-- Before an engine is looked for, nothing depends on programs. -/
theorem Takes.other_programs (takes : b.Takes x probe relocate pr s₁ t s₂) (early : pr.number < 4)
    (x' : Programs) (probe' : Probe) (relocate' : Relocation) :
    b.Takes x' probe' relocate' pr s₁ t s₂ ∧ s₂.asked = s₁.asked := by
  cases takes with
  | plan paths => exact ⟨.plan paths, rfl⟩
  | planRefused paths refusal => exact ⟨.planRefused paths refusal, rfl⟩
  | planBroken paths refusal => exact ⟨.planBroken paths refusal, rfl⟩
  | prepare made => exact ⟨.prepare made, rfl⟩
  | prepareRefused made => exact ⟨.prepareRefused made, rfl⟩
  | prepareBroken made => exact ⟨.prepareBroken made, rfl⟩
  | source found => exact ⟨.source found, rfl⟩
  | sourceMissing found => exact ⟨.sourceMissing found, rfl⟩
  | sourceBroken found => exact ⟨.sourceBroken found, rfl⟩
  | clear removed => exact ⟨.clear removed, rfl⟩
  | clearNothing removed => exact ⟨.clearNothing removed, rfl⟩
  | clearRefused removed present => exact ⟨.clearRefused removed present, rfl⟩
  | _ => simp [Progress.number] at early

theorem Reaches.other_programs (reach : b.Reaches x probe relocate source s pr s₁)
    (early : pr.number ≤ 4) (x' : Programs) (probe' : Probe) (relocate' : Relocation) :
    b.Reaches x' probe' relocate' source s pr s₁ ∧ s₁.asked = s.asked := by
  induction reach with
  | begun => exact ⟨.begun, rfl⟩
  | next _ onward ih =>
    have later := onward.number_eq
    obtain ⟨before, asked⟩ := ih (by omega)
    obtain ⟨onward', asked'⟩ := onward.other_programs (by omega) x' probe' relocate'
    exact ⟨before.next onward', asked'.trans asked⟩

/-- A result whose duration is the span between two readings of a clock can be reported. -/
theorem report_eq_ok (name : String) (r : BuildResult) (ds : List Diagnostic) (verbose : Bool)
    {timing : Timing} (timed : r.duration = timing.elapsed) :
    ∃ notices, Report.result name r ds verbose = .ok notices := by
  obtain ⟨text, told⟩ := timing.exists_clock
  unfold Report.result
  rw [timed, told]
  exact ⟨_, rfl⟩

theorem Ends.duration_eq (ends : b.Ends x probe relocate source s (.ok r, s')) :
    r.duration = s.timing.elapsed := by
  cases ends with
  | @last _ _ t _ _ _ _ result => cases t <;> cases result <;> rfl

/-- What a build gives is handed on when its log can be read. -/
theorem runOn_compile_eq_ok_iff :
    (b.compile x probe relocate source).runOn s = (.ok r, s') ↔
      ∃ s₂ ds notices, b.Ends x probe relocate source s (.ok r, s₂) ∧
        findings r.rawLog = .ok ds ∧ Report.result source.nameText r ds b.verbose = .ok notices ∧
        s' = s₂.telling notices := by
  unfold compile
  rw [Act.runOn_bind]
  simp only [ends_iff]
  rcases (b.build x probe relocate source).runOn s with ⟨f | r', s₂⟩
  · simp
  dsimp only
  rw [Act.runOn_bind, Act.runOn_ofExcept]
  cases read : findings r'.rawLog with
  | error f =>
    simp only [Prod.mk.injEq, reduceCtorEq, false_and, Except.ok.injEq, false_iff]
    rintro ⟨_, ds, notices, ⟨rfl, rfl⟩, read', -⟩
    rw [read] at read'
    cases read'
  | ok ds =>
    dsimp only
    rw [Act.runOn_bind, Act.runOn_ofExcept]
    cases told : Report.result source.nameText r' ds b.verbose with
    | error e =>
      simp only [mapError_error, Prod.mk.injEq, reduceCtorEq, false_and, Except.ok.injEq, false_iff]
      rintro ⟨_, ds', notices, ⟨rfl, rfl⟩, read', told', -⟩
      rw [read] at read'
      cases read'
      rw [told] at told'
      cases told'
    | ok notices =>
      simp only [mapError_ok, Act.runOn_bind, Act.runOn_tellAll, Act.runOn_pure]
      constructor
      · rintro ⟨rfl, rfl⟩
        exact ⟨s₂, ds, notices, rfl, read, told, rfl⟩
      · rintro ⟨_, ds', notices', ⟨rfl, rfl⟩, read', told', rfl⟩
        rw [read] at read'
        cases read'
        rw [told] at told'
        cases told'
        rfl

theorem Reaches.exists_started (reach : b.Reaches x probe relocate source s pr s₁)
    (running : 5 ≤ pr.number) :
    ∃ p launch image s₂, b.Reaches x probe relocate source s (.started p launch image) s₂ := by
  by_cases first : pr.number = 5
  · cases pr with
    | started p launch image => exact ⟨p, launch, image, s₁, reach⟩
    | _ => cases first
  · obtain ⟨pr', next, s₂, s₃, number, reach', -⟩ := reach.earlier (k := 5) (by omega)
    cases pr' with
    | started p launch image => exact ⟨p, launch, image, s₂, reach'⟩
    | _ => cases number

/-- The stage at which a build fails or is complete gives its outcome and has its log. -/
theorem Ends.decided (ends : b.Ends x probe relocate source s (.ok r, s₂)) :
    ∃ pr s₁, b.Reaches x probe relocate source s pr s₁ ∧
      ((∃ problem, b.Takes x probe relocate pr s₁ (.failed problem r.rawLog) s₂ ∧
          problem.failure ∈ pr.failures ∧
          r.outcome = .failed problem.failure problem.message) ∨
        ∃ p w, pr = .produced p w ∧
          b.Takes x probe relocate pr s₁ (.delivered p.destination r.rawLog) s₂ ∧
          r.outcome = .built p.destination) := by
  cases ends with
  | @last pr s₁ t _ _ reach takes result =>
    refine ⟨pr, s₁, reach, ?_⟩
    cases t with
    | failed problem log =>
      cases result
      exact .inl ⟨problem, takes, takes.of_failed.1, rfl⟩
    | delivered document log =>
      cases result
      obtain ⟨p, w, rfl, rfl, rfl⟩ := takes.of_delivered
      exact .inr ⟨p, w, rfl, takes, rfl⟩
    | onward next => cases result
    | broken f => cases result

/-- The log of a build is what the engine wrote by its last stage. -/
theorem Ends.rawLog_eq (ends : b.Ends x probe relocate source s (.ok r, s₂)) :
    ∃ pr s₁, b.Reaches x probe relocate source s pr s₁ ∧ r.rawLog = b.engineLog x pr s₁ ∧
      ∀ pr' s₃, b.Reaches x probe relocate source s pr' s₃ → pr'.number ≤ pr.number := by
  obtain ⟨pr, s₁, reach, ⟨problem, takes, -⟩ | ⟨p, w, rfl, takes, -⟩⟩ := ends.decided
  · exact ⟨pr, s₁, reach, takes.of_failed.2, fun _ _ => reach.number_le_of_last takes rfl⟩
  · obtain ⟨p', w', same, -, written⟩ := takes.of_delivered
    cases same
    exact ⟨_, s₁, reach, written, fun _ _ => reach.number_le_of_last takes rfl⟩

theorem Ends.rawLog_eq_empty_iff (ends : b.Ends x probe relocate source s (.ok r, s₂)) :
    r.rawLog = "" ↔
      ¬ ∃ p launch image s₁,
        b.Reaches x probe relocate source s (.started p launch image) s₁ := by
  obtain ⟨pr, s₁, reach, written, last⟩ := ends.rawLog_eq
  rw [written, engineLog_eq_empty]
  constructor
  · rintro early ⟨p, launch, image, s₃, started⟩
    exact absurd (last _ s₃ started) (Nat.not_le_of_lt early)
  · exact fun never => Nat.lt_of_not_le fun running => never (reach.exists_started running)

theorem Ends.rawLog_of_started (ends : b.Ends x probe relocate source s (.ok r, s₂))
    (started : b.Reaches x probe relocate source s (.started p launch image) s₁) :
    r.rawLog = (b.watched x launch image s₁).1.log := by
  obtain ⟨pr, s₃, reach, written, last⟩ := ends.rawLog_eq
  rw [written]
  exact started.engineLog_eq reach (last _ s₁ started)

/-- A build that fails for what is around it starts no program. -/
theorem Ends.of_environment (ends : b.Ends x probe relocate source s (.ok r, s₂))
    (kind : r.failure? = some .environment) (x' : Programs) (probe' : Probe)
    (relocate' : Relocation) :
    b.Ends x' probe' relocate' source s (.ok r, s₂) ∧ s₂.asked = s.asked := by
  cases ends with
  | @last pr s₁ t _ _ reach takes result =>
    have early : pr.number < 4 := by
      cases t with
      | failed problem log =>
        cases result
        have same : problem.failure = .environment := Option.some.inj kind
        rw [← Progress.environment_mem_failures, ← same]
        exact takes.of_failed.1
      | delivered document log => cases result; cases kind
      | onward next => cases result
      | broken f => cases result
    obtain ⟨reach', asked⟩ := reach.other_programs (Nat.le_of_lt early) x' probe' relocate'
    obtain ⟨takes', asked'⟩ := takes.other_programs early x' probe' relocate'
    exact ⟨.last reach' takes' result, asked'.trans asked⟩

/-- How a build of a source that began in a session and gave a result in another one was
decided. -/
structure Decided (b : Builder) (x : Programs) (probe : Probe) (relocate : Relocation)
    (source : Path) (s : Session) (r : BuildResult) (s' : Session) : Prop where
  /-- The first stage that does not go well gives the kind of the failure, and the last one
  the document. -/
  stage : ∃ pr s₁ s₂, b.Reaches x probe relocate source s pr s₁ ∧
    ((∃ problem, b.Takes x probe relocate pr s₁ (.failed problem r.rawLog) s₂ ∧
        problem.failure ∈ pr.failures ∧
        r.outcome = .failed problem.failure problem.message) ∨
      ∃ p w, pr = .produced p w ∧
        b.Takes x probe relocate pr s₁ (.delivered p.destination r.rawLog) s₂ ∧
        r.outcome = .built p.destination)
  /-- A failure for what is around starts no program: no command is asked for its version, and
  other programs make no difference. -/
  quiet : r.failure? = some .environment →
    s'.asked = s.asked ∧
      ∀ x' probe' relocate', (b.compile x' probe' relocate' source).runOn s = (.ok r, s')
  silent : r.rawLog = "" ↔
    ¬ ∃ p launch image s₁, b.Reaches x probe relocate source s (.started p launch image) s₁
  log : ∀ p launch image s₁,
    b.Reaches x probe relocate source s (.started p launch image) s₁ →
      r.rawLog.toList =
        Utf8.decode (b.watched x launch image s₁).1.stdout.kept.flatten ++
          '\n' :: Utf8.decode (b.watched x launch image s₁).1.stderr.kept.flatten
  fields : Outcome.ofFields r.success r.artifact? r.message? r.failure? = .ok r.outcome
  artifact : r.success = true ↔ r.artifact?.isSome = true
  message : r.success = true ↔ r.message? = none
  failure : r.success = true ↔ r.failure? = none

/-- The outcome of every build is decided by the first of its stages that fails. -/
theorem compile_decided (returned : (b.compile x probe relocate source).runOn s = (.ok r, s')) :
    b.Decided x probe relocate source s r s' := by
  obtain ⟨s₂, ds, notices, ends, read, told, rfl⟩ := runOn_compile_eq_ok_iff.mp returned
  obtain ⟨pr, s₁, reach, decided⟩ := ends.decided
  refine ⟨⟨pr, s₁, s₂, reach, decided⟩, ?_, ends.rawLog_eq_empty_iff, ?_, ?_,
    r.success_iff_artifact, r.success_iff_message, r.success_iff_failure⟩
  · intro kind
    refine ⟨(ends.of_environment kind x probe relocate).2, fun x' probe' relocate' => ?_⟩
    have ends' := (ends.of_environment kind x' probe' relocate').1
    exact runOn_compile_eq_ok_iff.mpr ⟨s₂, ds, notices, ends', read, told, rfl⟩
  · intro p launch image s₃ started
    rw [ends.rawLog_of_started started, Supervision.toList_log]
  · refine r.ofFields_eq fun worded => ?_
    obtain ⟨problem, -, -, failed⟩ | ⟨p, w, -, -, built⟩ := decided
    · rw [BuildResult.message?, failed] at worded
      exact problem.message_ne_empty (Option.some.inj worded)
    · rw [BuildResult.message?, built] at worded
      cases worded

/-- An engine that greets, leaves a document of one octet in the directory `b` and ends. -/
def greeting : Programs where
  answers := fun _ _ _ v => (true, v)
  shows := fun _ _ _ v =>
    ⟨[.started, .wrote .stdout [104, 105], .read .stdout 8, .ended (.code 0), .reaped,
        .hungUp .stdout, .hungUp .stderr, .read .stdout 8, .read .stderr 8],
      v.putFile [⟨"cv.pdf", by decide⟩, ⟨"b", by decide⟩] ⟨[37], 0o644⟩⟩

/-- A source in the directory `s`, a directory `b` for builds, and an engine. -/
def desk : Session where
  host := {
    volume := {
      entries := [
        ([⟨"s", by decide⟩], .directory 0o755), ([⟨"b", by decide⟩], .directory 0o755),
        ([⟨"cv.tex", by decide⟩, ⟨"s", by decide⟩], .file 0), ([⟨"tex", by decide⟩], .file 1)]
      files := [(0, ⟨[], 0o644⟩), (1, ⟨Volume.utilityBytes "true", 0o755⟩)]
      next := 2 }
    medium := .calm
    cwd := []
    environment := []
    accounts := ⟨some "/root", []⟩
    stack := .usual }
  journal := []
  asked := []
  timing := .still

/-- Builds with the engine of the desk, in its directory for builds. -/
def deskBuilder : Builder :=
  ⟨⟨"/tex", some [], "linux"⟩, some (Path.ofString "/b"), none, false⟩

theorem compile_decided_desk :
    let run := (deskBuilder.compile greeting (greeting.probe (.whole 5)) place
      (Path.ofString "/s/cv.tex")).runOn desk
    let r : BuildResult := ⟨.built (Path.ofString "/s/cv.pdf"), "hi\n", .zero⟩
    run = (.ok r, run.2) ∧
      deskBuilder.Decided greeting (greeting.probe (.whole 5)) place (Path.ofString "/s/cv.tex")
        desk r run.2 := by
  intro run r
  have returned : run = (.ok r, run.2) := Act.runOn_eq_ok (by decide +kernel)
  exact ⟨returned, compile_decided returned⟩

end Builder

end TexBuild
