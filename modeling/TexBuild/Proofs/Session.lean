import TexBuild.Build.Compile
import TexBuild.Proofs.Except

namespace TexBuild

namespace Session

/-- The session with another volume. -/
def withVolume (s : Session) (v : Volume) : Session :=
  { s with host := { s.host with volume := v } }

/-- The session with more records in its journal. -/
def telling (s : Session) (ns : List Notice) : Session :=
  { s with journal := s.journal ++ ns }

variable (s : Session) (v : Volume) (ns : List Notice)

@[simp] theorem volume_withVolume : (s.withVolume v).host.volume = v := rfl

@[simp] theorem cwd_withVolume : (s.withVolume v).host.cwd = s.host.cwd := rfl

@[simp] theorem environment_withVolume :
    (s.withVolume v).host.environment = s.host.environment := rfl

@[simp] theorem asked_withVolume : (s.withVolume v).asked = s.asked := rfl

@[simp] theorem timing_withVolume : (s.withVolume v).timing = s.timing := rfl

@[simp] theorem host_telling : (s.telling ns).host = s.host := rfl

@[simp] theorem timing_telling : (s.telling ns).timing = s.timing := rfl

@[simp] theorem asked_telling : (s.telling ns).asked = s.asked := rfl

@[simp] theorem telling_telling (more : List Notice) :
    (s.telling ns).telling more = s.telling (ns ++ more) := by
  simp [telling]

@[simp] theorem telling_nil : s.telling [] = s := by
  simp [telling]

end Session

namespace Act

variable {α β : Type} (s : Session)

@[simp] theorem runOn_pure (a : α) : (pure a : Act α).runOn s = (.ok a, s) := rfl

@[simp] theorem runOn_throw (f : Fault) : (throw f : Act α).runOn s = (.error f, s) := rfl

theorem runOn_bind (a : Act α) (f : α → Act β) :
    (a >>= f).runOn s =
      match a.runOn s with
      | (.ok x, s') => (f x).runOn s'
      | (.error e, s') => (.error e, s') := by
  have split : (a >>= f).runOn s = ExceptT.bindCont f (a.runOn s).1 (a.runOn s).2 := rfl
  rw [split]
  obtain ⟨r, s'⟩ := a.runOn s
  cases r <;> rfl

/-- An operation with a next one gives a result exactly if both do. -/
theorem runOn_bind_eq_ok_iff {a : Act α} {f : α → Act β} {y : β} {s s' : Session} :
    (a >>= f).runOn s = (.ok y, s') ↔
      ∃ x s₁, a.runOn s = (.ok x, s₁) ∧ (f x).runOn s₁ = (.ok y, s') := by
  rw [runOn_bind]
  obtain ⟨e | x, s₁⟩ := a.runOn s
  · simp
  · refine ⟨fun next => ⟨x, s₁, rfl, next⟩, ?_⟩
    rintro ⟨_, _, same, next⟩
    cases same
    exact next

@[simp] theorem runOn_host : Act.host.runOn s = (.ok s.host, s) := rfl

@[simp] theorem runOn_elapsed : Act.elapsed.runOn s = (.ok s.timing.elapsed, s) := rfl

@[simp] theorem runOn_setVolume (v : Volume) :
    (Act.setVolume v).runOn s = (.ok (), s.withVolume v) := rfl

@[simp] theorem runOn_tell (n : Notice) : (Act.tell n).runOn s = (.ok (), s.telling [n]) := rfl

@[simp] theorem runOn_tellAll (ns : List Notice) :
    (Act.tellAll ns).runOn s = (.ok (), s.telling ns) := rfl

@[simp] theorem runOn_noteAsked (command : String) :
    (Act.noteAsked command).runOn s = (.ok (), { s with asked := s.asked ++ [command] }) := rfl

@[simp] theorem runOn_ofExcept (e : Except Fault α) :
    (MonadExcept.ofExcept e : Act α).runOn s = (e, s) := by
  cases e <;> rfl

@[simp] theorem runOn_attempt (a : Act α) :
    (Act.attempt a).runOn s = (.ok (a.runOn s).1, (a.runOn s).2) := rfl

@[simp] theorem runOn_get : (get : Act Session).runOn s = (.ok s, s) := rfl

/-- A computation without effects leaves the session as it is. -/
theorem runOn_ofExcept_eq_ok_iff {e : Except Fault α} {x : α} {s s' : Session} :
    (MonadExcept.ofExcept e : Act α).runOn s = (.ok x, s') ↔ e = .ok x ∧ s' = s := by
  rw [runOn_ofExcept, Prod.mk.injEq, eq_comm (a := s)]

/-- An act is attempted with success exactly if it succeeds. -/
theorem runOn_attempt_eq_ok_iff {a : Act α} {x : α} {s s' : Session} :
    (Act.attempt a).runOn s = (.ok (.ok x), s') ↔ a.runOn s = (.ok x, s') := by
  rw [runOn_attempt, Prod.mk.injEq, Except.ok.injEq]
  obtain ⟨r, t⟩ := a.runOn s
  rw [Prod.mk.injEq]

/-- An act that returns something ends in the session that comes with it. -/
theorem runOn_eq_ok {a : Act α} {s : Session} {x : α} (h : (a.runOn s).1.toOption = some x) :
    a.runOn s = (.ok x, (a.runOn s).2) := by
  generalize a.runOn s = run at h ⊢
  obtain ⟨f | y, s'⟩ := run
  · cases h
  · cases h
    rfl

theorem runOn_ne_ok {a : Act α} {s : Session} (h : (a.runOn s).1.toOption = none) (x : α)
    (s' : Session) : a.runOn s ≠ (.ok x, s') := by
  intro same
  rw [same] at h
  cases h

end Act

namespace Stage

variable {α β : Type} (s : Session)

/-- Runs a stage: a fault ends the operation, a problem the build. -/
def runOn (a : Stage α) (s : Session) : Except Fault (Except Problem α) × Session :=
  Act.runOn (ExceptT.run a) s

theorem runOn_run (a : Stage α) : Act.runOn (ExceptT.run a) s = a.runOn s := rfl

@[simp] theorem runOn_pure (a : α) : (pure a : Stage α).runOn s = (.ok (.ok a), s) := rfl

@[simp] theorem runOn_throw (p : Problem) :
    (throw p : Stage α).runOn s = (.ok (.error p), s) := rfl

@[simp] theorem runOn_fault (f : Fault) :
    (Stage.fault f : Stage α).runOn s = (.error f, s) := rfl

theorem runOn_bind (a : Stage α) (f : α → Stage β) :
    (a >>= f).runOn s =
      match a.runOn s with
      | (.ok (.ok x), s') => (f x).runOn s'
      | (.ok (.error p), s') => (.ok (.error p), s')
      | (.error e, s') => (.error e, s') := by
  have split : (a >>= f).runOn s = (ExceptT.run a >>= ExceptT.bindCont f).runOn s := rfl
  rw [split, Act.runOn_bind]
  unfold runOn
  obtain ⟨r, s'⟩ := Act.runOn (ExceptT.run a) s
  rcases r with e | p | x <;> rfl

@[simp] theorem runOn_lift (a : Act α) :
    (liftM a : Stage α).runOn s =
      match a.runOn s with
      | (.ok x, s') => (.ok (.ok x), s')
      | (.error e, s') => (.error e, s') := by
  have split : (liftM a : Stage α).runOn s = (a >>= fun x => pure (Except.ok x)).runOn s := rfl
  rw [split, Act.runOn_bind]
  rfl

/-- A stage that begins with a look around is as its rest. -/
theorem runOn_bind_host (f : Host → Stage β) :
    (do let h ← Act.host; f h : Stage β).runOn s = (f s.host).runOn s := rfl

end Stage

end TexBuild
