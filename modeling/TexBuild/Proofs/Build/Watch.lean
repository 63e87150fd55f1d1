import Mathlib.Data.List.Induction
import TexBuild.Build.Supervision

namespace TexBuild

/-- The event that is an interruption when it comes during the wait for the output. -/
def Interruption.event : Interruption → Event
  | .deadline => .deadline
  | .cancellation => .cancelled

/-- The pipe of a stream after an event. Its reader gets a turn only while the readers are at
work, and what happens to the other stream is nothing to it. -/
def Pipe.after (p : Pipe) (stream : Stream) (reading : Bool) : Event → Pipe
  | .wrote other octets => if other = stream then p.write octets else p
  | .hungUp other => if other = stream then { p with isOpen := false } else p
  | .read other size => if other = stream ∧ reading = true then p.read size else p
  | _ => p

theorem Pipe.drained_after_of_idle {p : Pipe} {stream : Stream} {reading : Bool} {e : Event}
    (idle : reading = false ∨ ∀ other size, e ≠ .read other size) :
    (p.after stream reading e).drained = p.drained := by
  cases e with
  | wrote other octets =>
    simp only [after, write]
    split
    · split <;> rfl
    · rfl
  | hungUp other =>
    simp only [after]
    split <;> rfl
  | read other size =>
    obtain rfl | never := idle
    · simp [after]
    · exact absurd rfl (never other size)
  | _ => rfl

theorem Pipe.drained_after {p : Pipe} {stream : Stream} {reading : Bool} {e : Event}
    (drained : p.drained = true) : (p.after stream reading e).drained = true := by
  cases e with
  | read other size => simp only [after, read, drained, if_true, ite_self]
  | _ =>
    refine (drained_after_of_idle (.inr ?_)).trans drained
    nofun

/-- The engine after an event. -/
def Life.after (life : Life) : Event → Life
  | .ended ending => if life = .running then .gone ending else life
  | .reaped =>
    match life with
    | .gone ending => .reaped ending
    | _ => life
  | _ => life

namespace Phase

/-- What ended the wait for the output, once it was ended so. -/
def cause? : Phase → Option Interruption
  | .leftover why | .waiting why => some why
  | .over why => why
  | _ => none

/-- The watch waits where a cancellation ends the watch itself. -/
def IsBare : Phase → Prop
  | .starting | .leftover _ | .waiting _ => True
  | _ => False

/-- The phase after an event, before it is looked whether it is over. -/
def after (phase : Phase) : Event → Phase
  | .started => if phase = .starting then .reading else phase
  | .deadline => if phase = .reading then .leftover .deadline else phase
  | .cancelled =>
    match phase with
    | .reading => .leftover .cancellation
    | .starting | .leftover _ | .waiting _ => .escaped
    | .over _ | .escaped => phase
  | .leftoverOver =>
    match phase with
    | .leftover why => .waiting why
    | _ => phase
  | _ => phase

/-- The phase, or the one after it once nothing is left to wait for in it. -/
def settled (drained reaped : Bool) : Phase → Phase
  | .reading => if drained && reaped then .over none else .reading
  | .leftover why =>
    if drained then if reaped then .over (some why) else .waiting why else .leftover why
  | .waiting why => if reaped then .over (some why) else .waiting why
  | phase => phase

variable {phase : Phase} {e : Event} {why : Interruption} {drained reaped : Bool}

@[simp] theorem settled_settled :
    (phase.settled drained reaped).settled drained reaped = phase.settled drained reaped := by
  cases phase <;> cases drained <;> cases reaped <;> rfl

@[simp] theorem settled_eq_starting_iff :
    phase.settled drained reaped = .starting ↔ phase = .starting := by
  cases phase <;> cases drained <;> cases reaped <;> simp [settled]

@[simp] theorem settled_eq_escaped_iff :
    phase.settled drained reaped = .escaped ↔ phase = .escaped := by
  cases phase <;> cases drained <;> cases reaped <;> simp [settled]

@[simp] theorem settled_eq_reading_iff :
    phase.settled drained reaped = .reading ↔ phase = .reading ∧ (drained && reaped) = false := by
  cases phase <;> cases drained <;> cases reaped <;> simp [settled]

@[simp] theorem cause?_settled : (phase.settled drained reaped).cause? = phase.cause? := by
  cases phase <;> cases drained <;> cases reaped <;> rfl

theorem after_eq_starting_iff :
    phase.after e = .starting ↔ phase = .starting ∧ e ≠ .started ∧ e ≠ .cancelled := by
  cases phase <;> cases e <;> simp [after]

theorem after_eq_reading_iff :
    phase.after e = .reading ↔
      phase = .reading ∧ e ≠ .deadline ∧ e ≠ .cancelled ∨ phase = .starting ∧ e = .started := by
  cases phase <;> cases e <;> simp [after]

theorem after_eq_escaped_iff :
    phase.after e = .escaped ↔ phase = .escaped ∨ phase.IsBare ∧ e = .cancelled := by
  cases phase <;> cases e <;> simp [after, IsBare]

theorem cause?_after_iff :
    (phase.after e).cause? = some why ↔
      phase.cause? = some why ∧ phase.after e ≠ .escaped ∨ phase = .reading ∧ e = why.event := by
  cases phase <;> cases e <;> cases why <;> simp [after, cause?, Interruption.event]

end Phase

namespace Supervision

variable {s : Supervision} {stream : Stream} {e : Event} {why : Interruption}
  {events : List Event}

/-- Nothing is left to wait for: both readers have seen the end of their streams, and the end of
the engine was noticed. -/
def isComplete (s : Supervision) : Bool :=
  s.isDrained && s.isReaped

/-- Whether output was given up, after an event. -/
def incompleteAfter (s : Supervision) : Event → Bool
  | .leftoverOver =>
    match s.phase with
    | .leftover _ => true
    | _ => s.incomplete
  | _ => s.incomplete

theorem settle_eq :
    s.settle = { s with phase := s.phase.settled s.isDrained s.isReaped } := by
  obtain ⟨phase, stdout, stderr, life, killSent, incomplete⟩ := s
  unfold settle
  cases phase with
  | reading =>
    dsimp only [Phase.settled]
    split <;> rfl
  | leftover why =>
    dsimp only [Phase.settled]
    split <;> rfl
  | waiting why =>
    dsimp only [Phase.settled]
    split <;> rfl
  | _ => rfl

/-- What an event does to all that is watched, the phase apart. -/
theorem step_eq (s : Supervision) (e : Event) :
    ∃ phase killSent, s.step e =
      ⟨phase, s.stdout.after .stdout s.isReading e, s.stderr.after .stderr s.isReading e,
        s.life.after e, killSent, s.incompleteAfter e⟩ := by
  cases e with
  | started =>
    simp only [step]
    split <;> exact ⟨_, _, rfl⟩
  | wrote stream octets => cases stream <;> exact ⟨_, _, rfl⟩
  | hungUp stream => cases stream <;> exact ⟨_, _, rfl⟩
  | read stream size =>
    simp only [step]
    cases s.isReading with
    | true => cases stream <;> exact ⟨_, _, settle_eq⟩
    | false => cases stream <;> exact ⟨_, _, rfl⟩
  | ended ending =>
    simp only [step, Life.after]
    split <;> exact ⟨_, _, rfl⟩
  | reaped =>
    obtain ⟨phase, stdout, stderr, life, killSent, incomplete⟩ := s
    cases life with
    | gone ending => exact ⟨_, _, settle_eq⟩
    | _ => exact ⟨_, _, rfl⟩
  | deadline =>
    simp only [step, interrupt]
    split
    · exact ⟨_, _, settle_eq⟩
    · exact ⟨_, _, rfl⟩
  | cancelled =>
    simp only [step, interrupt]
    split
    · exact ⟨_, _, settle_eq⟩
    all_goals exact ⟨_, _, rfl⟩
  | leftoverOver =>
    simp only [step, incompleteAfter]
    cases phase : s.phase with
    | leftover why => exact ⟨_, _, settle_eq⟩
    | _ => exact ⟨_, _, rfl⟩

theorem pipe_step : (s.step e).pipe stream = (s.pipe stream).after stream s.isReading e := by
  obtain ⟨phase, killSent, same⟩ := s.step_eq e
  rw [same]
  cases stream <;> rfl

theorem life_step : (s.step e).life = s.life.after e := by
  obtain ⟨phase, killSent, same⟩ := s.step_eq e
  rw [same]

theorem incomplete_step : (s.step e).incomplete = s.incompleteAfter e := by
  obtain ⟨phase, killSent, same⟩ := s.step_eq e
  rw [same]

theorem isDrained_iff : s.isDrained = true ↔ ∀ stream, (s.pipe stream).drained = true := by
  rw [isDrained, Bool.and_eq_true]
  exact ⟨fun both stream => by cases stream; exacts [both.1, both.2],
    fun every => ⟨every .stdout, every .stderr⟩⟩

/-- An end that a reader has seen is seen for good. -/
theorem isDrained_step (drained : s.isDrained = true) : (s.step e).isDrained = true := by
  rw [isDrained_iff] at drained ⊢
  intro stream
  rw [pipe_step]
  exact Pipe.drained_after (drained stream)

theorem isDrained_step_of_idle (idle : s.isReading = false ∨ ∀ other size, e ≠ .read other size) :
    (s.step e).isDrained = s.isDrained := by
  rw [Bool.eq_iff_iff, isDrained_iff, isDrained_iff]
  simp only [pipe_step, Pipe.drained_after_of_idle idle]

theorem isReaped_iff : s.isReaped = true ↔ ∃ ending, s.life = .reaped ending := by
  unfold isReaped
  cases s.life <;> simp

theorem isReaped_step (reaped : s.isReaped = true) : (s.step e).isReaped = true := by
  obtain ⟨ending, life⟩ := isReaped_iff.mp reaped
  refine isReaped_iff.mpr ⟨ending, ?_⟩
  rw [life_step, life]
  cases e <;> rfl

theorem isReaped_step_of_ne (other : e ≠ .reaped) : (s.step e).isReaped = s.isReaped := by
  unfold isReaped
  rw [life_step]
  cases e with
  | reaped => exact absurd rfl other
  | ended ending =>
    cases life : s.life <;> rfl
  | _ => rfl

/-- What is complete stays so. -/
theorem isComplete_step (complete : s.isComplete = true) : (s.step e).isComplete = true := by
  rw [isComplete, Bool.and_eq_true] at complete ⊢
  exact ⟨isDrained_step complete.1, isReaped_step complete.2⟩

/-- A watch in good order: no phase is kept in which nothing is left to wait for, and before the
start nothing is read. -/
structure Steady (s : Supervision) : Prop where
  settled : s.phase.settled s.isDrained s.isReaped = s.phase
  unread : s.phase = .starting → s.isDrained = false

theorem steady_initial : initial.Steady :=
  ⟨rfl, fun _ => rfl⟩

theorem Steady.settled_step (steady : s.Steady) (e : Event)
    (idle : ∀ other size, e ≠ .read other size) (apart : e ≠ .reaped) :
    s.phase.settled (s.step e).isDrained (s.step e).isReaped = s.phase := by
  rw [isDrained_step_of_idle (.inr idle), isReaped_step_of_ne apart]
  exact steady.settled

/-- The phase after an event is the one that the event leads to, or the one after that. -/
theorem phase_step (steady : s.Steady) :
    (s.step e).phase =
      (s.phase.after e).settled (s.step e).isDrained (s.step e).isReaped := by
  cases e with
  -- an event that ends no wait leaves the phase, which was settled before
  | wrote stream octets =>
    have same : (s.step (.wrote stream octets)).phase = s.phase := by cases stream <;> rfl
    exact same.trans (steady.settled_step (.wrote stream octets) nofun nofun).symm
  | hungUp stream =>
    have same : (s.step (.hungUp stream)).phase = s.phase := by cases stream <;> rfl
    exact same.trans (steady.settled_step (.hungUp stream) nofun nofun).symm
  | ended ending =>
    refine Eq.trans ?_ (steady.settled_step (.ended ending) nofun nofun).symm
    simp only [step]
    split <;> rfl
  -- a start is not settled either: no reader can have seen an end before it
  | started =>
    have settled := steady.settled_step .started nofun nofun
    simp only [step, Phase.after] at settled ⊢
    split
    case isTrue starting =>
      have unread : s.isDrained = false := steady.unread starting
      change _ = Phase.reading.settled s.isDrained s.isReaped
      rw [unread]
      rfl
    case isFalse started =>
      rw [if_neg started] at settled
      exact settled.symm
  | read stream size =>
    simp only [step, Phase.after]
    split
    · rw [settle_eq]
      cases stream <;> rfl
    · exact steady.settled.symm
  | reaped =>
    simp only [step, Phase.after]
    split
    · rw [settle_eq]
      rfl
    · exact steady.settled.symm
  | deadline =>
    simp only [step, interrupt, Phase.after]
    split
    · rw [settle_eq]
      rfl
    · exact steady.settled.symm
  | cancelled =>
    simp only [step, interrupt, Phase.after]
    cases phase : s.phase with
    | reading =>
      rw [settle_eq]
      rfl
    | «over» why => exact phase
    | escaped => exact phase
    | _ => rfl
  | leftoverOver =>
    have settled := steady.settled
    simp only [step, Phase.after]
    cases phase : s.phase with
    | leftover why =>
      dsimp only
      rw [settle_eq]
      rfl
    | _ =>
      rw [phase] at settled
      exact phase.trans settled.symm

theorem Steady.step (steady : s.Steady) : (s.step e).Steady := by
  refine ⟨?_, fun starting => ?_⟩
  · rw [phase_step steady, Phase.settled_settled]
  · rw [phase_step steady, Phase.settled_eq_starting_iff, Phase.after_eq_starting_iff] at starting
    have idle : s.isReading = false := by rw [isReading, starting.1]
    rw [isDrained_step_of_idle (.inl idle)]
    exact steady.unread starting.1

theorem run_concat : run (events ++ [e]) = (run events).step e := by
  rw [run, List.foldl_append]
  rfl

theorem run_append (before after : List Event) :
    run (before ++ after) = after.foldl step (run before) :=
  List.foldl_append

theorem steady_run (events : List Event) : (run events).Steady := by
  induction events using List.reverseRecOn with
  | nil => exact steady_initial
  | append_singleton events e ih =>
    rw [run_concat]
    exact ih.step

theorem phase_run_concat :
    (run (events ++ [e])).phase =
      ((run events).phase.after e).settled (run (events ++ [e])).isDrained
        (run (events ++ [e])).isReaped := by
  rw [run_concat]
  exact phase_step (steady_run events)

/-- One of the events comes while the watch is in a phase of a kind. -/
def Meets (events : List Event) (e : Event) (P : Phase → Prop) : Prop :=
  ∃ before after, events = before ++ e :: after ∧ P (run before).phase

/-- Where the list with one more event is parted, its last event is the one of the parting or
comes after it. -/
theorem concat_eq_append_cons_iff {e' : Event} {before after : List Event} :
    events ++ [e'] = before ++ e :: after ↔
      (∃ rest, after = rest ++ [e'] ∧ events = before ++ e :: rest) ∨
        after = [] ∧ events = before ∧ e' = e := by
  induction after using List.reverseRecOn with
  | nil => simp
  | append_singleton rest last =>
    rw [← List.cons_append, ← List.append_assoc, List.append_singleton_inj]
    constructor
    · rintro ⟨same, rfl⟩
      exact .inl ⟨rest, rfl, same⟩
    · rintro (⟨rest', same, rfl⟩ | ⟨none, -⟩)
      · obtain ⟨rfl, rfl⟩ := List.append_singleton_inj.mp same
        exact ⟨rfl, rfl⟩
      · simp at none

theorem meets_concat_iff {e' : Event} {P : Phase → Prop} :
    Meets (events ++ [e']) e P ↔ Meets events e P ∨ P (run events).phase ∧ e' = e := by
  simp only [Meets, concat_eq_append_cons_iff]
  constructor
  · rintro ⟨before, after, ⟨rest, -, same⟩ | ⟨-, rfl, same⟩, held⟩
    · exact .inl ⟨before, rest, same, held⟩
    · exact .inr ⟨held, same⟩
  · rintro (⟨before, after, same, held⟩ | ⟨held, same⟩)
    · exact ⟨before, after ++ [e'], .inl ⟨after, rfl, same⟩, held⟩
    · exact ⟨events, [], .inr ⟨rfl, rfl, same⟩, held⟩

theorem not_meets_nil {P : Phase → Prop} : ¬ Meets [] e P := by
  rintro ⟨before, after, same, -⟩
  simp at same

/-- A cancellation escapes exactly if it comes during a bare wait. -/
theorem phase_run_eq_escaped_iff :
    (run events).phase = .escaped ↔ Meets events .cancelled Phase.IsBare := by
  induction events using List.reverseRecOn with
  | nil => exact iff_of_false nofun not_meets_nil
  | append_singleton events e ih =>
    rw [phase_run_concat, Phase.settled_eq_escaped_iff, Phase.after_eq_escaped_iff,
      meets_concat_iff, ih]

/-- What is handled as the cause of an early end is an interruption that came while the output was
read. -/
theorem cause?_run_eq_some_iff :
    (run events).phase.cause? = some why ↔
      Meets events why.event (· = .reading) ∧ (run events).phase ≠ .escaped := by
  induction events using List.reverseRecOn with
  | nil => exact iff_of_false nofun fun both => not_meets_nil both.1
  | append_singleton events e ih =>
    rw [phase_run_concat, Phase.cause?_settled, ne_eq, Phase.settled_eq_escaped_iff,
      meets_concat_iff, Phase.cause?_after_iff, ih]
    -- the watch escapes for good, and never by the event that ends the wait for the output
    have escaped : (run events).phase = .escaped → (run events).phase.after e = .escaped :=
      fun same => Phase.after_eq_escaped_iff.mpr (.inl same)
    have guarded : (run events).phase = .reading → (run events).phase.after e ≠ .escaped := by
      intro reading
      rw [ne_eq, Phase.after_eq_escaped_iff, reading]
      simp [Phase.IsBare]
    tauto

theorem phase_run_eq_over_iff :
    (run events).phase = .over (some why) ↔
      (∃ cause, (run events).phase = .over cause) ∧ Meets events why.event (· = .reading) := by
  constructor
  · intro ended
    exact ⟨⟨_, ended⟩, (cause?_run_eq_some_iff.mp (by rw [ended]; rfl)).1⟩
  · rintro ⟨⟨cause, ended⟩, met⟩
    have handled := cause?_run_eq_some_iff.mpr ⟨met, by rw [ended]; exact nofun⟩
    rw [ended] at handled ⊢
    exact congrArg Phase.over handled

/-- The engine is started, and neither a deadline nor a cancellation comes to end the wait. -/
def Awaited (events : List Event) : Prop :=
  ∃ early late, events = early ++ .started :: late ∧ .started ∉ early ∧ .cancelled ∉ early ∧
    .deadline ∉ late ∧ .cancelled ∉ late

theorem awaited_concat_iff :
    Awaited (events ++ [e]) ↔
      Awaited events ∧ e ≠ .deadline ∧ e ≠ .cancelled ∨
        (.started ∉ events ∧ .cancelled ∉ events) ∧ e = .started := by
  simp only [Awaited, concat_eq_append_cons_iff]
  constructor
  · rintro ⟨early, late, ⟨rest, rfl, same⟩ | ⟨rfl, rfl, same⟩, first, calm, limit, held⟩
    · rw [List.mem_append, not_or, List.mem_singleton] at limit held
      exact .inl ⟨⟨early, rest, same, first, calm, limit.1, held.1⟩, limit.2 ∘ Eq.symm,
        held.2 ∘ Eq.symm⟩
    · exact .inr ⟨⟨first, calm⟩, same⟩
  · rintro (⟨⟨early, late, same, first, calm, limit, held⟩, apart, apart'⟩ | ⟨⟨first, calm⟩, same⟩)
    · refine ⟨early, late ++ [e], .inl ⟨late, rfl, same⟩, first, calm, ?_, ?_⟩
      · rw [List.mem_append, not_or, List.mem_singleton]
        exact ⟨limit, apart ∘ Eq.symm⟩
      · rw [List.mem_append, not_or, List.mem_singleton]
        exact ⟨held, apart' ∘ Eq.symm⟩
    · exact ⟨events, [], .inr ⟨rfl, rfl, same⟩, first, calm, nofun, nofun⟩

theorem phase_run_eq_starting_iff :
    (run events).phase = .starting ↔ .started ∉ events ∧ .cancelled ∉ events := by
  induction events using List.reverseRecOn with
  | nil => exact iff_of_true rfl ⟨nofun, nofun⟩
  | append_singleton events e ih =>
    rw [phase_run_concat, Phase.settled_eq_starting_iff, Phase.after_eq_starting_iff, ih]
    simp only [List.mem_append, List.mem_singleton, not_or, ne_eq, eq_comm]
    tauto

theorem begins_concat_iff :
    begins (events ++ [e]) = true ↔
      begins events = true ∨ (.started ∉ events ∧ .cancelled ∉ events) ∧ e = .started := by
  unfold begins
  rw [List.find?_append]
  cases first : events.find? fun e => e == .started || e == .cancelled with
  | none =>
    have none : .started ∉ events ∧ .cancelled ∉ events := by
      rw [List.find?_eq_none] at first
      exact ⟨fun among => first _ among rfl, fun among => first _ among rfl⟩
    rw [Option.none_or, and_iff_right none]
    cases e <;> simp
  | some e' =>
    have among := List.mem_of_find?_eq_some first
    have kind := List.find?_some first
    simp only [Bool.or_eq_true, beq_iff_eq] at kind
    rw [Option.some_or, or_iff_left]
    rintro ⟨⟨unstarted, calm⟩, -⟩
    obtain rfl | rfl := kind
    · exact unstarted among
    · exact calm among

/-- A watch that has begun with no engine still waits for one, or was cancelled. -/
theorem begins_or_bare :
    begins events = true ∨ (run events).phase = .starting ∨ (run events).phase = .escaped := by
  induction events using List.reverseRecOn with
  | nil => exact .inr (.inl rfl)
  | append_singleton events e ih =>
    rw [begins_concat_iff, phase_run_concat, Phase.settled_eq_starting_iff,
      Phase.settled_eq_escaped_iff, Phase.after_eq_starting_iff, Phase.after_eq_escaped_iff]
    obtain begun | waits | escaped := ih
    · exact .inl (.inl begun)
    · by_cases start : e = .started
      · exact .inl (.inr ⟨phase_run_eq_starting_iff.mp waits, start⟩)
      by_cases cancel : e = .cancelled
      · exact .inr (.inr (.inr ⟨by rw [waits]; trivial, cancel⟩))
      · exact .inr (.inl ⟨waits, start, cancel⟩)
    · exact .inr (.inr (.inl escaped))

theorem begins_of_over {cause : Option Interruption} (ended : (run events).phase = .over cause) :
    begins events = true := by
  obtain begun | waits | escaped := @begins_or_bare events
  · exact begun
  · cases ended.symm.trans waits
  · cases ended.symm.trans escaped

/-- The output is read as long as the engine is awaited and something is left to wait for. -/
theorem phase_run_eq_reading_iff :
    (run events).phase = .reading ↔ Awaited events ∧ (run events).isComplete = false := by
  induction events using List.reverseRecOn with
  | nil => exact iff_of_false nofun fun ⟨⟨_, _, same, _⟩, _⟩ => by simp at same
  | append_singleton events e ih =>
    rw [phase_run_concat, Phase.settled_eq_reading_iff, Phase.after_eq_reading_iff,
      phase_run_eq_starting_iff, awaited_concat_iff, ih]
    -- what is incomplete after the last event was so before it
    have complete : (run (events ++ [e])).isComplete = false → (run events).isComplete = false := by
      rw [run_concat, ← Bool.not_eq_true, ← Bool.not_eq_true]
      exact mt isComplete_step
    change _ ∧ (run (events ++ [e])).isComplete = false ↔ _
    tauto

end Supervision

end TexBuild
