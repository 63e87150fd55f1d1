import TexBuild.Proofs.Build.Watch

namespace TexBuild

/-- The stream that an event is about, if it is about one. -/
def Event.stream? : Event → Option Stream
  | .wrote stream _ | .hungUp stream | .read stream _ => some stream
  | _ => none

/-- The octets that come to a stream over events: those that are written to it before its last
writer is gone. -/
def written (stream : Stream) : List Event → List UInt8
  | [] => []
  | .wrote other octets :: rest =>
    if other = stream then octets ++ written stream rest else written stream rest
  | .hungUp other :: rest => if other = stream then [] else written stream rest
  | _ :: rest => written stream rest

namespace Pipe

variable {p : Pipe} {stream : Stream} {reading : Bool} {e : Event} {rest : List Event} {size : Nat}
  {octets : List UInt8}

/-- All that has come to a pipe: what was read from it, and what waits in it. -/
def received (p : Pipe) : List UInt8 :=
  p.kept.flatten ++ p.pending

/-- What is still to come to a pipe over events. -/
def coming (p : Pipe) (stream : Stream) (events : List Event) : List UInt8 :=
  if p.isOpen then written stream events else []

/-- The end of a stream is seen only when nothing waits and nothing can come. -/
def IsSound (p : Pipe) : Prop :=
  p.drained = true → p.isOpen = false ∧ p.pending = []

theorem kept_write : (p.write octets).kept = p.kept := by
  unfold write
  split <;> rfl

/-- A turn of a reader adds at most one piece. -/
theorem kept_read : p.kept <+: (p.read size).kept := by
  unfold read
  split
  · exact List.prefix_rfl
  · split
    · split <;> exact List.prefix_rfl
    · split
      · exact List.prefix_rfl
      · rw [kept, kept, List.reverse_cons]
        exact List.prefix_append ..

/-- A turn of a reader takes from the front of what waits. -/
theorem received_read : (p.read size).received = p.received := by
  unfold read
  split
  · rfl
  · split
    · split <;> rfl
    · split
      · rfl
      · simp [received, kept]

theorem isOpen_read : (p.read size).isOpen = p.isOpen := by
  unfold read
  split
  · rfl
  · split
    · split <;> rfl
    · split <;> rfl

theorem IsSound.read (sound : p.IsSound) : (p.read size).IsSound := by
  unfold Pipe.read
  split
  · exact sound
  case isFalse awake =>
    split
    case h_1 none =>
      split
      · exact sound
      case isFalse shut => exact fun _ => ⟨eq_false_of_ne_true shut, none⟩
    · split
      · exact sound
      · exact fun drained => absurd drained awake

theorem IsSound.write (sound : p.IsSound) : (p.write octets).IsSound := by
  unfold Pipe.write
  split
  case isTrue able =>
    intro drained
    rw [(sound drained).1] at able
    cases able
  case isFalse => exact sound

theorem IsSound.after (sound : p.IsSound) : (p.after stream reading e).IsSound := by
  cases e with
  | wrote other octets =>
    simp only [Pipe.after]
    split
    · exact sound.write
    · exact sound
  | hungUp other =>
    simp only [Pipe.after]
    split
    · exact fun drained => ⟨rfl, (sound drained).2⟩
    · exact sound
  | read other size =>
    simp only [Pipe.after]
    split
    · exact sound.read
    · exact sound
  | _ => exact sound

theorem kept_after : p.kept <+: (p.after stream reading e).kept := by
  cases e with
  | wrote other octets =>
    simp only [after]
    split
    · simp only [kept_write, List.prefix_rfl]
    · exact List.prefix_rfl
  | hungUp other =>
    simp only [after]
    split <;> exact List.prefix_rfl
  | read other size =>
    simp only [after]
    split
    · exact kept_read
    · exact List.prefix_rfl
  | _ => exact List.prefix_rfl

/-- No event changes what has come to a pipe by the end. -/
theorem received_after :
    (p.after stream reading e).received ++ (p.after stream reading e).coming stream rest =
      p.received ++ p.coming stream (e :: rest) := by
  cases e with
  | wrote other octets =>
    simp only [after, written, coming]
    split
    · cases able : p.isOpen <;> simp [write, able, received, kept]
    · rfl
  | hungUp other =>
    simp only [after, written, coming]
    split
    · simp [received, kept]
    · rfl
  | read other size =>
    simp only [after, written, coming]
    split
    · rw [received_read, isOpen_read]
    · rfl
  | _ => rfl

end Pipe

namespace Supervision

variable {s : Supervision} {stream : Stream} {e : Event} {events : List Event}

theorem kept_run (s : Supervision) (stream : Stream) (events : List Event) :
    (s.pipe stream).kept <+: ((events.foldl step s).pipe stream).kept := by
  induction events generalizing s with
  | nil => exact List.prefix_rfl
  | cons e rest ih =>
    refine List.IsPrefix.trans ?_ (ih (s.step e))
    rw [pipe_step]
    exact Pipe.kept_after

theorem received_run (s : Supervision) (stream : Stream) (events : List Event) :
    ((events.foldl step s).pipe stream).received =
      (s.pipe stream).received ++ (s.pipe stream).coming stream events := by
  induction events generalizing s with
  | nil =>
    rw [Pipe.coming]
    simp [written]
  | cons e rest ih => rw [List.foldl_cons, ih, pipe_step, Pipe.received_after]

theorem isSound_run (events : List Event) (stream : Stream) :
    ((run events).pipe stream).IsSound := by
  induction events using List.reverseRecOn with
  | nil => cases stream <;> exact nofun
  | append_singleton events e ih =>
    rw [run_concat, pipe_step]
    exact ih.after

theorem kept_append_pending (events : List Event) (stream : Stream) :
    ((run events).pipe stream).kept.flatten ++ ((run events).pipe stream).pending =
      written stream events := by
  refine (received_run initial stream events).trans ?_
  cases stream <;> rfl

theorem kept_of_drained (drained : ((run events).pipe stream).drained = true) :
    ((run events).pipe stream).kept.flatten = written stream events := by
  have balance := kept_append_pending events stream
  rwa [(isSound_run events stream drained).2, List.append_nil] at balance

/-- Output is given up only by the end of the time for what is left of it. -/
theorem incomplete_step_iff :
    (s.step e).incomplete = true ↔
      s.incomplete = true ∨ e = .leftoverOver ∧ ∃ why, s.phase = .leftover why := by
  rw [incomplete_step]
  cases e with
  | leftoverOver =>
    simp only [incompleteAfter]
    cases s.phase <;> simp
  | _ => simp [incompleteAfter]

end Supervision

namespace Phase

/-- The output is not awaited any more. -/
def IsLate : Phase → Prop
  | .waiting _ | .over _ => True
  | _ => False

variable {phase : Phase} {e : Event} {drained reaped : Bool}

theorem isLate_settled (late : (phase.settled drained reaped).IsLate) :
    phase.IsLate ∨ drained = true := by
  cases phase <;> cases drained <;> simp_all [settled, IsLate]

theorem isLate_after (late : (phase.after e).IsLate) :
    phase.IsLate ∨ e = .leftoverOver ∧ ∃ why, phase = .leftover why := by
  cases phase <;> cases e <;> simp_all [after, IsLate]

end Phase

namespace Supervision

variable {stream : Stream} {events : List Event}

/-- Output that was neither read to its end nor given up is still awaited. -/
theorem incomplete_or_isDrained_of_isLate (late : (run events).phase.IsLate) :
    (run events).incomplete = true ∨ (run events).isDrained = true := by
  -- the output is not awaited any more once it is at its end or its time is over
  induction events using List.reverseRecOn with
  | nil => exact late.elim
  | append_singleton events e ih =>
    rw [phase_run_concat] at late
    rw [run_concat] at late ⊢
    rw [incomplete_step_iff]
    obtain led | drained := Phase.isLate_settled late
    · obtain before | givenUp := Phase.isLate_after led
      · obtain incomplete | drained := ih before
        · exact .inl (.inl incomplete)
        · exact .inr (isDrained_step drained)
      · exact .inl (.inr givenUp)
    · exact .inr drained

/-- How the output on one stream is collected over events, by all the readers that it has one
after the other. -/
structure Collects (events : List Event) (stream : Stream) : Prop where
  /-- What was read and what still waits in the pipe are together what was written, in its order
  and nothing twice. -/
  balance : ((run events).pipe stream).kept.flatten ++ ((run events).pipe stream).pending =
    written stream events
  ordered : ((run events).pipe stream).kept.flatten <+: written stream events
  /-- At whatever moment a reader takes over from another one, it adds its pieces to those that
  are kept, and they begin with what waits in the pipe then. -/
  handover : ∀ before after, events = before ++ after → ∃ pieces,
    ((run events).pipe stream).kept = ((run before).pipe stream).kept ++ pieces ∧
      pieces.flatten ++ ((run events).pipe stream).pending =
        ((run before).pipe stream).pending ++ ((run before).pipe stream).coming stream after
  /-- Once the end of the stream was seen, all of it is kept, whatever comes after. -/
  whole : ∀ before after, events = before ++ after → ((run before).pipe stream).drained = true →
    ((run events).pipe stream).kept.flatten = written stream events
  /-- Output is missing at the end of the watch only where that was noted. -/
  noted : ∀ why, (run events).phase = .over why → (run events).incomplete = false →
    ((run events).pipe stream).kept.flatten = written stream events
  /-- What happens to the other stream is nothing to this one. -/
  apart : ∀ before e after other, events = before ++ e :: after → e.stream? = some other →
    other ≠ stream → (run (before ++ [e])).pipe stream = (run before).pipe stream

theorem drained_foldl {s : Supervision} (drained : (s.pipe stream).drained = true)
    (events : List Event) : ((events.foldl step s).pipe stream).drained = true := by
  induction events generalizing s with
  | nil => exact drained
  | cons e rest ih =>
    refine ih ?_
    rw [pipe_step]
    exact Pipe.drained_after drained

theorem pipe_step_of_stream? {s : Supervision} {e : Event} {other : Stream}
    (about : e.stream? = some other) (apart : other ≠ stream) :
    (s.step e).pipe stream = s.pipe stream := by
  rw [pipe_step]
  cases e <;> cases about <;> simp [Pipe.after, apart]

/-- In every order of what is written, read and interrupted, the output that is kept is what was
written: nothing is lost between two readers, and nothing is read twice. -/
theorem run_collects (events : List Event) (stream : Stream) : Collects events stream := by
  have balance := kept_append_pending events stream
  refine ⟨balance, ⟨_, balance⟩, ?_, ?_, ?_, ?_⟩
  · rintro before after rfl
    rw [run_append]
    obtain ⟨pieces, grown⟩ := kept_run (run before) stream after
    have continued := received_run (run before) stream after
    refine ⟨pieces, grown.symm, ?_⟩
    rw [Pipe.received, Pipe.received, ← grown, List.flatten_append, List.append_assoc,
      List.append_assoc] at continued
    exact List.append_cancel_left continued
  · rintro before after rfl drained
    refine kept_of_drained ?_
    rw [run_append]
    exact drained_foldl drained after
  · intro why ended complete
    have late : (run events).phase.IsLate := by
      rw [ended]
      trivial
    obtain incomplete | drained := incomplete_or_isDrained_of_isLate late
    · rw [complete] at incomplete
      cases incomplete
    · exact kept_of_drained (isDrained_iff.mp drained stream)
  · rintro before e after other - about apart
    rw [run_concat]
    exact pipe_step_of_stream? about apart

-- the reader after a deadline goes on where the one before it was stopped
example :
    let events := [.started, .wrote .stdout [1, 2], .read .stdout 1, .deadline,
      .wrote .stdout [3], .read .stdout 8, .hungUp .stdout, .read .stdout 8, .leftoverOver]
    (run events).stdout.kept = [[1], [2, 3]] ∧ written .stdout events = [1, 2, 3] := by
  decide

end Supervision

end TexBuild
