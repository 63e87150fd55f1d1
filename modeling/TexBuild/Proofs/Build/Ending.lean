import TexBuild.Proofs.Build.Reaping

namespace TexBuild

/-- The record about an engine that ended in this way. -/
def Ending.notice (ending : Ending) : Notice :=
  Notice.build .debug s!"  Exit code: {ending.status}"

/-- Two episodes that differ at most in the ways in which the engines ended, and in the order in
which things happened: both engines came to their end with nothing to interrupt them, wrote the
same octets to each stream and left the same volume. -/
structure Episode.Alike (e e' : Episode) : Prop where
  volume : e'.volume = e.volume
  wrote : ∀ stream, written stream e'.events = written stream e.events
  ended : (Supervision.run e.events).phase = .over none
  ended' : (Supervision.run e'.events).phase = .over none

/-- What an operation does depends on no record of the journal, and it only adds records. -/
def Act.Blind {α : Type} (a : Act α) : Prop :=
  ∀ s t : Session, t.host = s.host → t.asked = s.asked → t.timing = s.timing →
    (a.runOn t).1 = (a.runOn s).1 ∧ (a.runOn t).2.host = (a.runOn s).2.host ∧
      (a.runOn t).2.asked = (a.runOn s).2.asked ∧
      ∃ told, (a.runOn s).2.journal = s.journal ++ told ∧ (a.runOn t).2.journal = t.journal ++ told

/-- Two sessions that differ at most in one record, the one about how an engine ended. -/
structure Session.SameButEnding (s t : Session) : Prop where
  host : t.host = s.host
  asked : t.asked = s.asked
  journal : t.journal = s.journal ∨ ∃ before ending ending' after,
    s.journal = before ++ Ending.notice ending :: after ∧
      t.journal = before ++ Ending.notice ending' :: after

theorem Session.SameButEnding.refl (s : Session) : s.SameButEnding s :=
  ⟨rfl, rfl, .inl rfl⟩

theorem Session.SameButEnding.telling {s t : Session} (same : s.SameButEnding t)
    (ns : List Notice) : (s.telling ns).SameButEnding (t.telling ns) := by
  refine ⟨same.host, same.asked, ?_⟩
  obtain equal | ⟨before, ending, ending', after, here, there⟩ := same.journal
  · exact .inl (congrArg (· ++ ns) equal)
  · refine .inr ⟨before, ending, ending', after ++ ns, ?_, ?_⟩
    · rw [Session.telling, here, List.append_assoc, List.cons_append]
    · rw [Session.telling, there, List.append_assoc, List.cons_append]

theorem blind_place (built destination : Path) : (place built destination).Blind := by
  intro s t host asked timing
  rw [runOn_place, runOn_place, host]
  by_cases clean : (Volume.isClean built && Volume.isClean destination) = true
  · rw [if_pos clean, if_pos clean]
    have copied (v : Volume) : (t.withVolume v).host = (s.withVolume v).host := by
      rw [Session.withVolume, Session.withVolume, host]
    rcases s.host.volume.copyFile s.host.medium s.host.cwd built.text destination.text with
      ⟨v, (_ | cause) | _⟩
    · exact ⟨rfl, copied v, asked, _, rfl, rfl⟩
    · exact ⟨rfl, copied v, asked, [], (List.append_nil _).symm, (List.append_nil _).symm⟩
    · exact ⟨rfl, copied v, asked, _, rfl, rfl⟩
  · rw [if_neg clean, if_neg clean]
    exact ⟨rfl, host, asked, [], by simp, by simp⟩

namespace Supervision

variable {events events' : List Event}

theorem incomplete_of_over_none (ended : (run events).phase = .over none) :
    (run events).incomplete = false := by
  cases given : (run events).incomplete with
  | false => rfl
  | true =>
    have past := isPast_of_incomplete given
    rw [ended] at past
    exact past.elim

/-- The output of an engine that ended by itself is all that it wrote. -/
theorem output_of_over_none (ended : (run events).phase = .over none) :
    (run events).output = joinOutput [written .stdout events] [written .stderr events] := by
  have whole (stream : Stream) := (run_collects events stream).noted none ended
    (incomplete_of_over_none ended)
  have stdout : (run events).stdout.kept.flatten = written .stdout events := whole .stdout
  have stderr : (run events).stderr.kept.flatten = written .stderr events := whole .stderr
  rw [output, joinOutput, joinOutput, stdout, stderr]
  simp only [List.flatten_singleton]

theorem exists_endNotice (ended : (run events).phase = .over none) :
    ∃ ending, Builder.endNotice (run events) = Ending.notice ending := by
  obtain ⟨ending, life⟩ := isReaped_iff.mp (isReaped_of_over ended)
  refine ⟨ending, ?_⟩
  unfold Builder.endNotice
  rw [life]
  rfl

/-- Two watches over engines that ended by themselves, which differ at most in how. -/
structure SameButEnding (w w' : Supervision) : Prop where
  ended : w.phase = .over none
  ended' : w'.phase = .over none
  log : w'.log = w.log
  notice : ∃ ending, Builder.endNotice w = Ending.notice ending
  notice' : ∃ ending, Builder.endNotice w' = Ending.notice ending

end Supervision

namespace Builder

variable {b : Builder} {x x' : Programs} {probe : Probe} {relocate : Relocation} {source : Path}
  {s s₁ : Session} {p : Plan} {w w' : Supervision} {launch : Launch}
  {image : Image}

theorem runOn_build_of_unstarted (x' : Programs)
    (never : ∀ p launch image s₁,
      ¬ b.Reaches x probe relocate source s (.started p launch image) s₁) :
    (b.build x' probe relocate source).runOn s = (b.build x probe relocate source).runOn s := by
  have ends : b.Ends x probe relocate source s _ := ends_build
  generalize (b.build x probe relocate source).runOn s = o at ends ⊢
  cases ends with
  | @last pr _ _ _ _ reach takes result =>
    have early : pr.number < 5 := by
      refine Nat.lt_of_not_le fun running => ?_
      obtain ⟨p, launch, image, s₁, started⟩ := reach.exists_started running
      exact never p launch image s₁ started
    have reach' := reach.of_other (Nat.le_of_lt early) x'
    exact ends_iff.mp (.last reach' (takes.of_other early x') result)

theorem runOn_build_of_watched (ended : w.phase = .over none)
    (reach : b.Reaches x probe relocate source s (.watched p w) s₁) :
    (b.build x probe relocate source).runOn s =
      match (b.conclude relocate p w).runOn s₁ with
      | (.ok (.ok document), s₂) => (.ok ⟨.built document, w.log, s.timing.elapsed⟩, s₂)
      | (.ok (.error problem), s₂) => (.ok (problem.result w.log s.timing.elapsed), s₂)
      | (.error f, s₂) => (.error f, s₂) := by
  have rest := ends_conclude ended reach
  generalize (b.conclude relocate p w).runOn s₁ = ran at rest ⊢
  obtain ⟨f | problem | document, s₂⟩ := ran <;> exact ends_iff.mp rest

/-- How an engine ended makes no difference to what is made of its document. -/
theorem conclude_ignores_ending (blind : (relocate p.artifact p.destination).Blind)
    (same : w.SameButEnding w') (s : Session) :
    ((b.conclude relocate p w').runOn s).1 = ((b.conclude relocate p w).runOn s).1 ∧
      ((b.conclude relocate p w).runOn s).2.SameButEnding
        ((b.conclude relocate p w').runOn s).2 := by
  rw [runOn_conclude _ _ same.ended, runOn_conclude _ _ same.ended']
  obtain ⟨ending, noted⟩ := same.notice
  obtain ⟨ending', noted'⟩ := same.notice'
  generalize endNotice w = n, endNotice w' = n' at noted noted' ⊢
  have apart : (s.telling [n]).SameButEnding (s.telling [n']) := by
    refine ⟨rfl, rfl, .inr ⟨s.journal, ending, ending', [], ?_, ?_⟩⟩
    · rw [← noted, Session.telling]
    · rw [← noted', Session.telling]
  rcases s.host.isFile p.artifact with cause | _ | _ <;> dsimp only
  · exact ⟨rfl, apart⟩
  · exact ⟨rfl, apart⟩
  obtain ⟨result, host, asked, told, here, there⟩ :=
    blind (s.telling [n]) (s.telling [n']) apart.host apart.asked rfl
  generalize (relocate p.artifact p.destination).runOn (s.telling [n]) = ran,
    (relocate p.artifact p.destination).runOn (s.telling [n']) = ran'
    at result host asked here there ⊢
  obtain ⟨o, s₂⟩ := ran
  obtain ⟨o', s₂'⟩ := ran'
  cases result
  have left : s₂.SameButEnding s₂' := by
    refine ⟨host, asked, .inr ⟨s.journal, ending, ending', told, ?_, ?_⟩⟩
    · rw [here, ← noted, Session.telling, List.append_assoc, List.singleton_append]
    · rw [there, ← noted', Session.telling, List.append_assoc, List.singleton_append]
  rcases o with f | _
  · cases f <;> exact ⟨rfl, left⟩
  · exact ⟨rfl, left⟩

/-- Two engines that write the same and leave the same leave the same to the stages after them. -/
theorem watched_of_alike
    (alike : (x.runs b.limit launch image s₁.host.volume).Alike
      (x'.runs b.limit launch image s₁.host.volume)) :
    ∃ w w' s₂, b.watched x launch image s₁ = (w, s₂) ∧ b.watched x' launch image s₁ = (w', s₂) ∧
      w.SameButEnding w' := by
  have session : (b.watched x' launch image s₁).2 = (b.watched x launch image s₁).2 := by
    unfold watched Supervision.leftoverNotices
    dsimp only
    rw [Supervision.incomplete_of_over_none alike.ended,
      Supervision.incomplete_of_over_none alike.ended', alike.volume]
  have log : (b.watched x' launch image s₁).1.log = (b.watched x launch image s₁).1.log := by
    unfold watched Supervision.log
    dsimp only
    rw [Supervision.output_of_over_none alike.ended, Supervision.output_of_over_none alike.ended',
      alike.wrote, alike.wrote]
  exact ⟨_, _, _, rfl, Prod.ext rfl session, alike.ended, alike.ended', log,
    Supervision.exists_endNotice alike.ended, Supervision.exists_endNotice alike.ended'⟩

theorem build_of_watched (blind : ∀ built destination, (relocate built destination).Blind)
    (same : w.SameButEnding w') (reach : b.Reaches x probe relocate source s (.watched p w) s₁)
    (reach' : b.Reaches x' probe relocate source s (.watched p w') s₁) :
    ((b.build x' probe relocate source).runOn s).1 =
        ((b.build x probe relocate source).runOn s).1 ∧
      ((b.build x probe relocate source).runOn s).2.SameButEnding
        ((b.build x' probe relocate source).runOn s).2 := by
  obtain ⟨result, left⟩ := conclude_ignores_ending (b := b) (blind p.artifact p.destination) same s₁
  rw [runOn_build_of_watched same.ended reach, runOn_build_of_watched same.ended' reach', same.log]
  generalize (b.conclude relocate p w).runOn s₁ = ran, (b.conclude relocate p w').runOn s₁ = ran'
    at result left ⊢
  obtain ⟨o, s₂⟩ := ran
  obtain ⟨o', s₂'⟩ := ran'
  cases result
  rcases o with f | problem | document <;> exact ⟨rfl, left⟩

theorem build_ignores_ending (blind : ∀ built destination, (relocate built destination).Blind)
    (alike : ∀ p launch image s₁,
      b.Reaches x probe relocate source s (.started p launch image) s₁ →
        (x.runs b.limit launch image s₁.host.volume).Alike
          (x'.runs b.limit launch image s₁.host.volume)) :
    ((b.build x' probe relocate source).runOn s).1 =
        ((b.build x probe relocate source).runOn s).1 ∧
      ((b.build x probe relocate source).runOn s).2.SameButEnding
        ((b.build x' probe relocate source).runOn s).2 := by
  by_cases never : ∀ p launch image s₁,
      ¬ b.Reaches x probe relocate source s (.started p launch image) s₁
  · rw [runOn_build_of_unstarted x' never]
    exact ⟨rfl, .refl _⟩
  push Not at never
  obtain ⟨p, launch, image, s₁, started⟩ := never
  have started' := started.of_other le_rfl x'
  have alike := alike p launch image s₁ started
  have met := b.meetLimit_of_over alike.ended
  have met' := b.meetLimit_of_over alike.ended'
  cases limit : b.checkLimit with
  | error e =>
    have here : b.Ends x probe relocate source s (.error (.span e), s₁.withVolume _) :=
      .last started (.limitBroken (met.trans limit)) rfl
    have there : b.Ends x' probe relocate source s (.error (.span e), s₁.withVolume _) :=
      .last started' (.limitBroken (met'.trans limit)) rfl
    rw [ends_iff.mp here, ends_iff.mp there, alike.volume]
    exact ⟨rfl, .refl _⟩
  | ok _ =>
    obtain ⟨w, w', s₂, seen, seen', same⟩ := watched_of_alike alike
    exact build_of_watched blind same (started.next (.watch (met.trans limit) seen same.ended))
      (started'.next (.watch (met'.trans limit) seen' same.ended'))

/-- How an engine ends says nothing about the document. Two engines that write the same octets to
each stream and leave the same volume, and that nothing interrupts, give the same result and leave
the same behind, whatever their codes or signals: only the record of how they ended can differ. -/
theorem compile_ignores_ending (blind : ∀ built destination, (relocate built destination).Blind)
    (alike : ∀ p launch image s₁,
      b.Reaches x probe relocate source s (.started p launch image) s₁ →
        (x.runs b.limit launch image s₁.host.volume).Alike
          (x'.runs b.limit launch image s₁.host.volume)) :
    let run := (b.compile x probe relocate source).runOn s
    let run' := (b.compile x' probe relocate source).runOn s
    run'.1 = run.1 ∧ run.2.SameButEnding run'.2 := by
  intro run run'
  unfold run run'
  rw [runOn_compile, runOn_compile]
  obtain ⟨result, left⟩ := build_ignores_ending blind alike
  generalize (b.build x probe relocate source).runOn s = ran,
    (b.build x' probe relocate source).runOn s = ran' at result left ⊢
  obtain ⟨o, s₂⟩ := ran
  obtain ⟨o', s₂'⟩ := ran'
  cases result
  cases o with
  | error f => exact ⟨rfl, left⟩
  | ok r =>
    dsimp only
    cases b.reported source r with
    | error f => exact ⟨rfl, left⟩
    | ok notices => exact ⟨rfl, left.telling notices⟩

/-- An engine that leaves the same as the one that greets, in other pieces and after its end was
noticed, and is ended by a signal. -/
def curtGreeting : Programs where
  answers := greeting.answers
  shows := fun limit launch image v =>
    ⟨[.started, .wrote .stdout [104], .wrote .stdout [105], .ended (.signal 9), .reaped,
        .read .stdout 1, .hungUp .stderr, .read .stdout 1, .read .stderr 8, .hungUp .stdout,
        .read .stdout 1],
      (greeting.shows limit launch image v).volume⟩

theorem compile_ignores_ending_desk :
    let run := (deskBuilder.compile greeting (greeting.probe (.whole 5)) place
      (Path.ofString "/s/cv.tex")).runOn desk
    let run' := (deskBuilder.compile curtGreeting (greeting.probe (.whole 5)) place
      (Path.ofString "/s/cv.tex")).runOn desk
    let r : BuildResult := ⟨.built (Path.ofString "/s/cv.pdf"), "hi\n", .zero⟩
    run = (.ok r, run.2) ∧ run'.1 = run.1 ∧ run.2.SameButEnding run'.2 := by
  intro run run' r
  have returned : run = (.ok r, run.2) := Act.runOn_eq_ok (by decide +kernel)
  refine ⟨returned, compile_ignores_ending blind_place fun p launch image s₁ _ => ?_⟩
  refine ⟨rfl, fun stream => ?_, rfl, rfl⟩
  cases stream <;> rfl

end Builder

end TexBuild
