import TexBuild.Proofs.Build.Collection
import TexBuild.Proofs.Build.Interruption

namespace TexBuild

/-- The event is one in the life of the engine itself, not of its output or of the watch. -/
def Event.isVital : Event → Bool
  | .ended _ | .reaped => true
  | _ => false

/-- The events without those in the life of the engine itself. -/
def outside (events : List Event) : List Event :=
  events.filter fun e => !e.isVital

theorem Pipe.after_of_isVital {p : Pipe} {stream : Stream} {reading : Bool} {e : Event}
    (vital : e.isVital = true) : p.after stream reading e = p := by
  cases e with
  | ended | reaped => rfl
  | _ => cases vital

namespace Phase

/-- No output is read any more, and not because the engine has ended by itself. -/
def IsPast : Phase → Prop
  | .waiting _ | .over (some _) | .escaped => True
  | _ => False

/-- Two phases in which the output is read alike: they are the same, or no output is read in
either. -/
def Alike (phase phase' : Phase) : Prop :=
  phase = phase' ∨ phase.IsPast ∧ phase'.IsPast

variable {phase phase' : Phase} {e : Event} {why : Option Interruption} {drained reaped : Bool}

theorem after_of_isVital (vital : e.isVital = true) : phase.after e = phase := by
  cases e with
  | ended | reaped => rfl
  | _ => cases vital

theorem after_eq_over_iff : phase.after e = .over why ↔ phase = .over why := by
  cases phase <;> cases e <;> simp [after]

/-- A wait that is over was so before, or the end of the engine is noticed. -/
theorem over_or_reaped_of_settled (ended : phase.settled drained reaped = .over why) :
    phase = .over why ∨ reaped = true := by
  cases reaped with
  | true => exact .inr rfl
  | false => cases phase <;> cases drained <;> simp_all [settled]

theorem settled_eq_over_none (ended : phase = .over none) :
    phase.settled drained reaped = .over none := by
  rw [ended]
  rfl

theorem IsPast.after (past : phase.IsPast) : (phase.after e).IsPast := by
  cases phase with
  | waiting why => cases e <;> trivial
  | «over» cause =>
    cases cause with
    | none => exact past.elim
    | some why => cases e <;> trivial
  | escaped => cases e <;> trivial
  | _ => exact past.elim

theorem IsPast.settled (past : phase.IsPast) : (phase.settled drained reaped).IsPast := by
  cases phase with
  | waiting why => cases reaped <;> trivial
  | «over» cause => exact past
  | escaped => trivial
  | _ => exact past.elim

theorem Alike.after (alike : phase.Alike phase') : (phase.after e).Alike (phase'.after e) := by
  obtain rfl | ⟨past, past'⟩ := alike
  · exact .inl rfl
  · exact .inr ⟨past.after, past'.after⟩

/-- Whether the end of the engine is noticed makes no difference to what is read, unless the
watch is over by it. -/
theorem Alike.settled (alike : phase.Alike phase')
    (apart : phase.settled drained reaped ≠ .over none) :
    (phase.settled drained reaped).Alike (phase'.settled drained false) := by
  obtain rfl | ⟨past, past'⟩ := alike
  · cases phase <;> cases drained <;> cases reaped <;> simp_all [Phase.settled, Alike, IsPast]
  · exact .inr ⟨past.settled, past'.settled⟩

end Phase

namespace Supervision

variable {s t : Supervision} {stream : Stream} {e : Event} {events : List Event} {ending : Ending}
  {late : List Event} {why : Interruption}

/-- The engine ends in this way, and these are the events after that. -/
def EndsBefore (events : List Event) (ending : Ending) (late : List Event) : Prop :=
  ∃ early, events = early ++ .ended ending :: late ∧ ∀ other, .ended other ∉ early

/-- The engine has ended in this way, and was waited for. -/
def Reaped (events : List Event) (ending : Ending) : Prop :=
  ∃ late, EndsBefore events ending late ∧ .reaped ∈ late

theorem endsBefore_concat_iff :
    EndsBefore (events ++ [e]) ending late ↔
      (∃ rest, late = rest ++ [e] ∧ EndsBefore events ending rest) ∨
        late = [] ∧ e = .ended ending ∧ ∀ other, .ended other ∉ events := by
  simp only [EndsBefore, concat_eq_append_cons_iff]
  constructor
  · rintro ⟨early, ⟨rest, rfl, same⟩ | ⟨rfl, rfl, same⟩, first⟩
    · exact .inl ⟨rest, rfl, early, same, first⟩
    · exact .inr ⟨rfl, same, first⟩
  · rintro (⟨rest, rfl, early, same, first⟩ | ⟨rfl, same, first⟩)
    · exact ⟨early, .inl ⟨rest, rfl, same⟩, first⟩
    · exact ⟨events, .inr ⟨rfl, rfl, same⟩, first⟩

theorem life_run_concat : (run (events ++ [e])).life = (run events).life.after e := by
  rw [run_concat, life_step]

theorem life_run_eq_running_iff :
    (run events).life = .running ↔ ∀ ending, .ended ending ∉ events := by
  induction events using List.reverseRecOn with
  | nil => exact iff_of_true rfl fun _ => List.not_mem_nil
  | append_singleton events e ih =>
    rw [life_run_concat]
    simp only [List.mem_append, List.mem_singleton, not_or, forall_and]
    rw [← ih]
    cases life : (run events).life <;> cases e <;> simp [Life.after]

theorem life_run_of_endsBefore (ends : EndsBefore events ending late) :
    (run events).life = if .reaped ∈ late then .reaped ending else .gone ending := by
  induction events using List.reverseRecOn generalizing late with
  | nil =>
    obtain ⟨_, same, _⟩ := ends
    simp at same
  | append_singleton events e ih =>
    rw [life_run_concat]
    obtain ⟨rest, rfl, before⟩ | ⟨rfl, rfl, first⟩ := endsBefore_concat_iff.mp ends
    · rw [ih before]
      by_cases noticed : .reaped ∈ rest
      · cases e <;> simp [Life.after, noticed]
      · cases e <;> simp [Life.after, noticed]
    · rw [life_run_eq_running_iff.mpr first]
      rfl

theorem exists_endsBefore (ended : (run events).life ≠ .running) :
    ∃ ending late, EndsBefore events ending late := by
  induction events using List.reverseRecOn with
  | nil => exact absurd rfl ended
  | append_singleton events e ih =>
    by_cases running : (run events).life = .running
    · rw [life_run_concat, running] at ended
      cases e with
      | ended ending =>
        exact ⟨ending, [], endsBefore_concat_iff.mpr
          (.inr ⟨rfl, rfl, life_run_eq_running_iff.mp running⟩)⟩
      | _ => exact absurd rfl ended
    · obtain ⟨ending, late, before⟩ := ih running
      exact ⟨ending, late ++ [e], endsBefore_concat_iff.mpr (.inl ⟨late, rfl, before⟩)⟩

/-- The engine is taken for ended in a way exactly if it has ended so, and was waited for. -/
theorem life_run_eq_reaped_iff : (run events).life = .reaped ending ↔ Reaped events ending := by
  constructor
  · intro life
    obtain ⟨ending', late, ends⟩ := exists_endsBefore (by rw [life]; nofun)
    rw [life_run_of_endsBefore ends] at life
    split at life
    case isTrue noticed =>
      cases life
      exact ⟨late, ends, noticed⟩
    case isFalse => cases life
  · rintro ⟨late, ends, noticed⟩
    rw [life_run_of_endsBefore ends, if_pos noticed]

theorem isReaped_run_iff : (run events).isReaped = true ↔ ∃ ending, Reaped events ending := by
  simp only [isReaped_iff, life_run_eq_reaped_iff]

/-- A watch that is over has seen the end of the engine. -/
theorem isReaped_of_over {cause : Option Interruption} (ended : (run events).phase = .over cause) :
    (run events).isReaped = true := by
  induction events using List.reverseRecOn with
  | nil => cases ended
  | append_singleton events e ih =>
    rw [phase_run_concat] at ended
    obtain before | reaped := Phase.over_or_reaped_of_settled ended
    · rw [run_concat]
      exact isReaped_step (ih (Phase.after_eq_over_iff.mp before))
    · exact reaped

/-- Output that was given up is awaited no more. -/
theorem isPast_of_incomplete (given : (run events).incomplete = true) :
    (run events).phase.IsPast := by
  induction events using List.reverseRecOn with
  | nil => cases given
  | append_singleton events e ih =>
    rw [run_concat, incomplete_step_iff] at given
    rw [phase_run_concat]
    generalize (run (events ++ [e])).isDrained = drained, (run (events ++ [e])).isReaped = reaped
    obtain before | ⟨rfl, why, left⟩ := given
    · exact (ih before).after.settled
    · rw [left]
      cases reaped <;> trivial

/-- A watch that has begun and let no cancellation through is over exactly if the engine has ended
and was waited for, and its output is at its end or was given up. -/
theorem exists_over_iff :
    (∃ cause, (run events).phase = .over cause) ↔
      (run events).phase ≠ .starting ∧ (run events).phase ≠ .escaped ∧
        (∃ ending, Reaped events ending) ∧
        ((run events).isDrained = true ∨ (run events).incomplete = true) := by
  rw [← isReaped_run_iff]
  constructor
  · rintro ⟨cause, ended⟩
    have late : (run events).phase.IsLate := by
      rw [ended]
      trivial
    exact ⟨by rw [ended]; nofun, by rw [ended]; nofun, isReaped_of_over ended,
      (incomplete_or_isDrained_of_isLate late).symm⟩
  · rintro ⟨begun, caught, reaped, output⟩
    have settled := (steady_run events).settled
    have past : (run events).incomplete = true → (run events).phase.IsPast := isPast_of_incomplete
    rw [reaped] at settled
    generalize (run events).isDrained = drained, (run events).incomplete = given
      at output past settled
    cases phase : (run events).phase with
    | «over» cause => exact ⟨cause, rfl⟩
    | starting => exact absurd phase begun
    | escaped => exact absurd phase caught
    | waiting why =>
      rw [phase] at settled
      cases settled
    | _ =>
      rw [phase] at settled past
      cases drained with
      | true => cases settled
      | false => exact (past (output.resolve_left nofun)).elim

theorem killSent_settle : s.settle.killSent = s.killSent := by
  rw [settle_eq]

/-- An interruption of the wait for the output sends a kill, unless the end of the engine was
noticed; nothing else sends one or takes it back. -/
theorem killSent_step :
    (s.step e).killSent =
      if s.phase = .reading ∧ (e = .deadline ∨ e = .cancelled) then !s.isReaped
      else s.killSent := by
  cases e with
  | wrote stream octets => cases stream <;> simp [step, setPipe]
  | hungUp stream => cases stream <;> simp [step, setPipe]
  | read stream size =>
    simp only [step]
    split
    · cases stream <;> simp [killSent_settle, setPipe]
    · simp
  | reaped =>
    simp only [step]
    split <;> simp [killSent_settle]
  | deadline =>
    simp only [step]
    split
    case isTrue reading => simp [reading, interrupt, killSent_settle]
    case isFalse other => simp [other]
  | cancelled =>
    simp only [step]
    cases phase : s.phase <;> simp [interrupt, killSent_settle]
  | leftoverOver =>
    simp only [step]
    cases phase : s.phase <;> simp [killSent_settle]
  | _ =>
    simp only [step]
    split <;> simp

/-- No kill is sent as long as the output is read. -/
theorem killSent_of_reading
    (early : (run events).phase = .starting ∨ (run events).phase = .reading) :
    (run events).killSent = false := by
  induction events using List.reverseRecOn with
  | nil => rfl
  | append_singleton events e ih =>
    rw [phase_run_concat, Phase.settled_eq_starting_iff, Phase.settled_eq_reading_iff,
      Phase.after_eq_starting_iff, Phase.after_eq_reading_iff] at early
    rw [run_concat, killSent_step]
    have apart : ¬ ((run events).phase = .reading ∧ (e = .deadline ∨ e = .cancelled)) := by
      rintro ⟨reading, same⟩
      rw [reading] at early
      obtain ⟨start, -⟩ | ⟨⟨-, other, other'⟩ | ⟨start, -⟩, -⟩ := early
      · cases start
      · exact same.elim other other'
      · cases start
    rw [if_neg apart]
    refine ih ?_
    tauto

/-- A kill is sent exactly if an interruption ends the wait for the output before the end of the
engine was noticed. -/
theorem killSent_run_iff :
    (run events).killSent = true ↔
      ∃ before why after, events = before ++ Interruption.event why :: after ∧
        (run before).phase = .reading ∧ (run before).isReaped = false := by
  induction events using List.reverseRecOn with
  | nil => exact iff_of_false nofun fun ⟨_, _, _, same, _⟩ => by simp at same
  | append_singleton events e ih =>
    rw [run_concat, killSent_step]
    simp only [concat_eq_append_cons_iff]
    split
    case isTrue cut =>
      obtain ⟨reading, interrupts⟩ := cut
      rw [Bool.not_eq_true']
      constructor
      · intro unnoticed
        obtain rfl | rfl := interrupts
        · exact ⟨events, .deadline, [], .inr ⟨rfl, rfl, rfl⟩, reading, unnoticed⟩
        · exact ⟨events, .cancellation, [], .inr ⟨rfl, rfl, rfl⟩, reading, unnoticed⟩
      · rintro ⟨before, why, after, ⟨rest, rfl, same⟩ | ⟨rfl, rfl, same⟩, held, unnoticed⟩
        · -- an earlier interruption would have ended the wait
          have sent := ih.mpr ⟨before, why, rest, same, held, unnoticed⟩
          rw [killSent_of_reading (.inr reading)] at sent
          cases sent
        · exact unnoticed
    case isFalse uncut =>
      rw [ih]
      constructor
      · rintro ⟨before, why, after, same, held⟩
        exact ⟨before, why, after ++ [e], .inl ⟨after, rfl, same⟩, held⟩
      · rintro ⟨before, why, after, ⟨rest, rfl, same⟩ | ⟨rfl, rfl, rfl⟩, held⟩
        · exact ⟨before, why, rest, same, held⟩
        · refine absurd ⟨held.1, ?_⟩ uncut
          cases why
          · exact .inl rfl
          · exact .inr rfl

/-- Two watches over the same output, which is read alike from now on. -/
structure Alike (s t : Supervision) : Prop where
  pipe : ∀ stream, s.pipe stream = t.pipe stream
  incomplete : s.incomplete = t.incomplete
  phase : s.phase.Alike t.phase

theorem isDrained_congr (pipe : ∀ stream, s.pipe stream = t.pipe stream) :
    s.isDrained = t.isDrained := by
  rw [Bool.eq_iff_iff, isDrained_iff, isDrained_iff]
  simp only [pipe]

theorem isReading_of_isPast (past : s.phase.IsPast) : s.isReading = false := by
  unfold isReading
  cases phase : s.phase <;> simp_all [Phase.IsPast]

theorem incompleteAfter_of_isPast (past : s.phase.IsPast) :
    s.incompleteAfter e = s.incomplete := by
  cases e with
  | leftoverOver =>
    simp only [incompleteAfter]
    cases phase : s.phase <;> simp_all [Phase.IsPast]
  | _ => rfl

theorem Alike.isReading (alike : s.Alike t) : s.isReading = t.isReading := by
  obtain same | ⟨past, past'⟩ := alike.phase
  · rw [Supervision.isReading, Supervision.isReading, same]
  · rw [isReading_of_isPast past, isReading_of_isPast past']

theorem Alike.incompleteAfter (alike : s.Alike t) : s.incompleteAfter e = t.incompleteAfter e := by
  obtain same | ⟨past, past'⟩ := alike.phase
  · unfold Supervision.incompleteAfter
    rw [same, alike.incomplete]
  · rw [incompleteAfter_of_isPast past, incompleteAfter_of_isPast past', alike.incomplete]

/-- An event that is nothing to the life of the engine does the same to both. -/
theorem Alike.step (alike : s.Alike t) (steady : s.Steady) (steady' : t.Steady)
    (unnoticed : (t.step e).isReaped = false) (apart : (s.step e).phase ≠ .over none) :
    (s.step e).Alike (t.step e) := by
  have pipe : ∀ stream, (s.step e).pipe stream = (t.step e).pipe stream := by
    intro stream
    rw [pipe_step, pipe_step, alike.pipe, alike.isReading]
  refine ⟨pipe, ?_, ?_⟩
  · rw [incomplete_step, incomplete_step, alike.incompleteAfter]
  · rw [phase_step steady] at apart ⊢
    rw [phase_step steady', unnoticed, ← isDrained_congr pipe]
    exact alike.phase.after.settled apart

/-- An event in the life of the engine is nothing to its output. -/
theorem Alike.step_of_isVital (alike : s.Alike t) (steady : s.Steady) (steady' : t.Steady)
    (unnoticed : t.isReaped = false) (vital : e.isVital = true)
    (apart : (s.step e).phase ≠ .over none) : (s.step e).Alike t := by
  have pipe : ∀ stream, (s.step e).pipe stream = t.pipe stream := by
    intro stream
    rw [pipe_step, Pipe.after_of_isVital vital, alike.pipe]
  refine ⟨pipe, ?_, ?_⟩
  · rw [incomplete_step, ← alike.incomplete]
    cases e with
    | ended | reaped => rfl
    | _ => cases vital
  · have settled := steady'.settled
    rw [phase_step steady, Phase.after_of_isVital vital] at apart ⊢
    rw [unnoticed, ← isDrained_congr pipe] at settled
    rw [← settled]
    exact alike.phase.settled apart

theorem isReaped_run_outside (events : List Event) : (run (outside events)).isReaped = false := by
  have running : (run (outside events)).life = .running := by
    rw [life_run_eq_running_iff]
    intro ending among
    have silent := (List.mem_filter.mp among).2
    cases silent
  rw [isReaped, running]

theorem over_none_step (ended : s.phase = .over none) (steady : s.Steady) :
    (s.step e).phase = .over none := by
  rw [phase_step steady]
  exact Phase.settled_eq_over_none (Phase.after_eq_over_iff.mpr ended)

/-- The output of an engine that did not end by itself is read as if its life were unknown. -/
theorem alike_run_outside (apart : (run events).phase ≠ .over none) :
    (run events).Alike (run (outside events)) := by
  induction events using List.reverseRecOn with
  | nil => exact ⟨fun _ => rfl, rfl, .inl rfl⟩
  | append_singleton events e ih =>
    have steady := steady_run events
    have steady' := steady_run (outside events)
    have before : (run events).phase ≠ .over none := by
      intro ended
      exact apart (by rw [run_concat]; exact over_none_step ended steady)
    have alike := ih before
    have unnoticed := isReaped_run_outside (events ++ [e])
    rw [run_concat] at apart ⊢
    rw [outside, List.filter_append] at unnoticed ⊢
    cases vital : e.isVital with
    | true =>
      have none : [e].filter (fun e => !e.isVital) = [] := by simp [vital]
      rw [none, List.append_nil] at unnoticed ⊢
      exact alike.step_of_isVital steady steady' unnoticed vital apart
    | false =>
      have kept : [e].filter (fun e => !e.isVital) = [e] := by simp [vital]
      rw [kept, run_concat] at unnoticed ⊢
      exact alike.step steady steady' unnoticed apart

/-- What is read of the output of an engine that did not end by itself does not depend on when it
ends, nor on when its end is noticed. -/
theorem output_eq_of_outside_eq {events' : List Event} (same : outside events' = outside events)
    (apart : (run events).phase ≠ .over none) (apart' : (run events').phase ≠ .over none) :
    (run events').output = (run events).output ∧
      (run events').incomplete = (run events).incomplete := by
  have here := alike_run_outside apart
  have there := alike_run_outside apart'
  rw [same] at there
  have pipe (stream : Stream) : (run events').pipe stream = (run events).pipe stream :=
    (there.pipe stream).trans (here.pipe stream).symm
  refine ⟨?_, there.incomplete.trans here.incomplete.symm⟩
  have stdout : (run events').stdout = (run events).stdout := pipe .stdout
  have stderr : (run events').stderr = (run events).stderr := pipe .stderr
  rw [output, output, stdout, stderr]

theorem life_of_gone {before after : List Event} (gone : (run before).life = .gone ending) :
    (run (before ++ after)).life = .gone ending ∨
      (run (before ++ after)).life = .reaped ending := by
  induction after using List.reverseRecOn with
  | nil =>
    rw [List.append_nil]
    exact .inl gone
  | append_singleton after e ih =>
    rw [← List.append_assoc, life_run_concat]
    obtain life | life := ih <;> rw [life] <;> cases e <;> simp [Life.after]

/-- How the engine is seen off over events, in whatever order they come. -/
structure SeesOff (events : List Event) : Prop where
  /-- At whatever moment, a watch that has begun and let no cancellation through is over exactly if
  the engine has ended and was waited for, and its output is at its end or was given up. -/
  finished : ∀ before after, events = before ++ after →
    ((∃ cause, (run before).phase = .over cause) ↔
      (run before).phase ≠ .starting ∧ (run before).phase ≠ .escaped ∧
        (∃ ending, Reaped before ending) ∧
        ((run before).isDrained = true ∨ (run before).incomplete = true))
  /-- A kill is sent exactly if an interruption ends the wait for the output while the end of the
  engine was not noticed. -/
  killed : (run events).killSent = true ↔
    ∃ before why after, events = before ++ Interruption.event why :: after ∧ Awaited before ∧
      (run before).isComplete = false ∧ ¬ ∃ ending, Reaped before ending
  /-- A kill that finds the engine gone does not change how it has ended. -/
  gone : ∀ before why after ending, events = before ++ Interruption.event why :: after →
    (run before).life = .gone ending → (∃ cause, (run events).phase = .over cause) →
    (run events).life = .reaped ending

theorem run_seesOff (events : List Event) : SeesOff events := by
  refine ⟨fun before after _ => exists_over_iff, ?_, ?_⟩
  · rw [killSent_run_iff]
    simp only [phase_run_eq_reading_iff, ← isReaped_run_iff, Bool.not_eq_true, and_assoc]
  · rintro before why after ending rfl gone ended
    obtain ⟨-, -, ⟨ending', noticed⟩, -⟩ := exists_over_iff.mp ended
    have reached : (run (before ++ why.event :: after)).life = .gone ending ∨
        (run (before ++ why.event :: after)).life = .reaped ending := life_of_gone gone
    obtain still | reaped := reached
    · rw [life_run_eq_reaped_iff.mpr noticed] at still
      cases still
    · exact reaped

-- the deadline comes between the end of the engine and the notice of it
example :
    let events := [.started, .ended (.code 3), .deadline, .reaped, .leftoverOver]
    (run events).killSent = true ∧ (run events).life = .reaped (.code 3) ∧
      (run events).phase = .over (some .deadline) := by
  decide

end Supervision

namespace Builder

variable {b : Builder} {x x' : Programs} {probe : Probe} {relocate : Relocation} {source : Path}
  {s s₁ s₂ s' : Session} {pr : Progress} {turn : Turn} {p : Plan} {launch : Launch} {image : Image}
  {r : BuildResult}

/-- What an engine does makes no difference to a build that has not started it. -/
theorem Takes.of_other (takes : b.Takes x probe relocate pr s₁ turn s₂) (early : pr.number < 5)
    (x' : Programs) : b.Takes x' probe relocate pr s₁ turn s₂ := by
  by_cases quiet : pr.number < 4
  · exact (takes.other_programs quiet x' probe relocate).1
  · cases takes with
    | start search start => exact .start search start
    | startRefused search start => exact .startRefused search start
    | startBroken search start other => exact .startBroken search start other
    | searchBroken search => exact .searchBroken search
    | _ => simp [Progress.number] at early quiet

/-- Which engine a build starts, and where, does not depend on what it does then. -/
theorem Reaches.of_other (reach : b.Reaches x probe relocate source s pr s₁)
    (early : pr.number ≤ 5) (x' : Programs) : b.Reaches x' probe relocate source s pr s₁ := by
  induction reach with
  | begun => exact .begun
  | next _ onward ih =>
    have later := onward.number_eq
    exact (ih (by omega)).next (onward.of_other (by omega) x')

/-- A build whose engine is interrupted gives the same and leaves the same, whenever the engine
ends and whenever that is noticed. -/
theorem runOn_compile_of_interrupted {why : Interruption}
    (started : b.Reaches x probe relocate source s (.started p launch image) s₁)
    (limit : b.meetLimit (x.runs b.limit launch image s₁.host.volume).events = .ok ())
    (named : b.nameLimit why = .ok ())
    (ended : (b.watched x launch image s₁).1.phase = .over (some why))
    (ended' : (b.watched x' launch image s₁).1.phase = .over (some why))
    (volume : (x'.runs b.limit launch image s₁.host.volume).volume =
      (x.runs b.limit launch image s₁.host.volume).volume)
    (same : outside (x'.runs b.limit launch image s₁.host.volume).events =
      outside (x.runs b.limit launch image s₁.host.volume).events) :
    (b.compile x' probe relocate source).runOn s = (b.compile x probe relocate source).runOn s := by
  have watched : (b.watched x' launch image s₁).1.output = (b.watched x launch image s₁).1.output ∧
      (b.watched x' launch image s₁).1.incomplete = (b.watched x launch image s₁).1.incomplete := by
    refine Supervision.output_eq_of_outside_eq same (fun itself => ?_) fun itself => ?_
    · cases ended.symm.trans itself
    · cases ended'.symm.trans itself
  have limit' : b.meetLimit (x'.runs b.limit launch image s₁.host.volume).events = .ok () :=
    ((b.meetLimit_of_over ended').trans (b.meetLimit_of_over ended).symm).trans limit
  have log : (b.watched x' launch image s₁).1.log = (b.watched x launch image s₁).1.log :=
    congrArg String.ofList watched.1
  have left : (b.watched x' launch image s₁).2 = (b.watched x launch image s₁).2 := by
    change (s₁.withVolume _).telling (Supervision.leftoverNotices (b.watched x' launch image s₁).1) =
      (s₁.withVolume _).telling (Supervision.leftoverNotices (b.watched x launch image s₁).1)
    rw [volume, Supervision.leftoverNotices, watched.2]
    rfl
  have here : b.Ends x probe relocate source s
      (.ok ((Problem.interrupted why b.limit).result (b.watched x launch image s₁).1.log
        s.timing.elapsed),
        (b.watched x launch image s₁).2) :=
    .last started (.watchInterrupted limit rfl ended named) rfl
  have there : b.Ends x' probe relocate source s
      (.ok ((Problem.interrupted why b.limit).result (b.watched x' launch image s₁).1.log
        s.timing.elapsed),
        (b.watched x' launch image s₁).2) :=
    .last (started.of_other le_rfl x') (.watchInterrupted limit' rfl ended' named) rfl
  rw [runOn_compile, runOn_compile, ends_iff.mp here, ends_iff.mp there, log, left]

/-- A build that gives a result leaves no engine running: its engine has ended and was waited for.
What the build gives and leaves does not depend on whether a kill was needed, found the engine
gone or was spared: after an interruption it is the same, whenever the engine ends and whenever
that is noticed. -/
theorem compile_leaves_no_engine
    (started : b.Reaches x probe relocate source s (.started p launch image) s₁)
    (returned : (b.compile x probe relocate source).runOn s = (.ok r, s')) :
    let episode := x.runs b.limit launch image s₁.host.volume
    let w := Supervision.run episode.events
    (∃ cause, w.phase = .over cause) ∧
      (∃ ending, w.life = .reaped ending ∧ Supervision.Reaped episode.events ending) ∧
      Supervision.SeesOff episode.events ∧
      ∀ why, r.failure? = some why.failure → ∀ x' : Programs,
        let episode' := x'.runs b.limit launch image s₁.host.volume
        episode'.volume = episode.volume → outside episode'.events = outside episode.events →
          (Supervision.run episode'.events).phase = .over (some why) →
          (b.compile x' probe relocate source).runOn s = (.ok r, s') := by
  intro episode w
  obtain ⟨s₂, -, -, ends, -, -, -⟩ := runOn_compile_eq_ok_iff.mp returned
  obtain ⟨limit, cause, ended, named⟩ := ends.watch_over started
  refine ⟨⟨cause, ended⟩, ?_, Supervision.run_seesOff episode.events, ?_⟩
  · obtain ⟨-, -, ⟨ending, noticed⟩, -⟩ := Supervision.exists_over_iff.mp ⟨cause, ended⟩
    exact ⟨ending, Supervision.life_run_eq_reaped_iff.mpr noticed, noticed⟩
  · intro why kind x' episode' volume same ended'
    rw [← returned]
    have interrupted := (ends.interrupted_iff started why).mp kind
    cases interrupted.symm.trans ended
    exact runOn_compile_of_interrupted started limit (named why rfl) interrupted ended' volume same

/-- An engine that has ended by itself when it is killed. -/
theorem compile_leaves_no_engine_desk :
    let x := showing [.started, .ended (.code 3), .deadline, .reaped, .leftoverOver]
    let x' := showing [.started, .deadline, .ended (.signal 9), .leftoverOver, .reaped]
    let probe := x.probe (.whole 5)
    let source := Path.ofString "/s/cv.tex"
    ∃ p launch image s₁ r s',
      hastyBuilder.Reaches x probe place source desk (.started p launch image) s₁ ∧
      (hastyBuilder.compile x probe place source).runOn desk = (.ok r, s') ∧
      let episode := x.runs hastyBuilder.limit launch image s₁.host.volume
      let w := Supervision.run episode.events
      (∃ cause, w.phase = .over cause) ∧
        (∃ ending, w.life = .reaped ending ∧ Supervision.Reaped episode.events ending) ∧
        Supervision.SeesOff episode.events ∧
        (hastyBuilder.compile x' probe place source).runOn desk = (.ok r, s') := by
  intro x x' probe source
  have returned : (hastyBuilder.compile x probe place source).runOn desk =
      (.ok ⟨.failed .timeout "Compilation timed out after 5 seconds", "\n", .zero⟩, _) :=
    Act.runOn_eq_ok (by decide +kernel)
  obtain ⟨p, launch, image, s₁, started⟩ := exists_started_of_returned returned (by decide)
  obtain ⟨ended, reaped, seen, other⟩ := compile_leaves_no_engine started returned
  have same := other .deadline rfl x' rfl rfl rfl
  exact ⟨p, launch, image, s₁, _, _, started, returned, ended, reaped, seen, same⟩

end Builder

end TexBuild
