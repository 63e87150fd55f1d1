import TexBuild.Proofs.Tool.Command

namespace TexBuild.Search

variable {q : Search} {x : Programs} {limit : Seconds} {s s' : Session} {tool : Tool}
  {command : String}

/-- A command that answers was started, and leaves no other trace on the host than on its volume. -/
theorem of_ask_true (asked : (ask (x.probe limit) command).runOn s = (.ok true, s')) :
    let launch := Programs.versionLaunch s.host command
    ∃ image, launch.start s.host.volume = .ok image ∧
      x.answers limit launch image s.host.volume = (true, s'.host.volume) ∧
      s'.host.environment = s.host.environment := by
  unfold ask Programs.probe at asked
  rw [Act.runOn_bind, Act.runOn_noteAsked] at asked
  dsimp only at asked ⊢
  rw [Act.runOn_bind, Act.runOn_host] at asked
  dsimp only at asked
  rcases started : (Programs.versionLaunch s.host command).start s.host.volume with fault | image
  · rw [started] at asked
    cases fault <;> cases asked
  · rw [started] at asked
    obtain ⟨_, s₁, timed, answered⟩ := Act.runOn_bind_eq_ok_iff.mp asked
    rw [Act.runOn_ofExcept] at timed
    obtain ⟨-, rfl⟩ := Prod.mk.inj timed
    obtain ⟨answer, rfl⟩ := Prod.mk.inj answered
    exact ⟨image, rfl, Prod.ext (Except.ok.inj answer) rfl, rfl⟩

/-- A bare engine that is verified was found, from the directory at hand, at the first place of the
search path that runs. What is started is found in the same way from the directory of the source,
on the volume that the probe has left, and is the same file exactly if that search leads to it. It
does where the places so far are spelled from the root and the probe changes nothing. -/
theorem resolve_verifies_file
    (resolved : (q.resolve (x.probe limit)).runOn s = (.ok tool, s')) (bare : tool.isBare = true)
    (verified : tool.verified = true) :
    let asked := Programs.versionLaunch s.host tool.command
    ∃ before place after probed,
      asked.places = before ++ place :: after ∧
      Launch.StopsAt s.host.volume s.host.cwd before place probed ∧
      x.answers limit asked probed s.host.volume = (true, s'.host.volume) ∧
      ∀ p : Plan,
        let started := p.launch tool s'.host.environment
        ((∃ image, started.image s'.host.volume = .ok image ∧ image.file = probed.file) ↔
          ∃ before' place' after' image, asked.places = before' ++ place' :: after' ∧
            Launch.StopsAt s'.host.volume p.workplace before' place' image ∧
            image.file = probed.file) ∧
        ((∀ other ∈ before ++ [place],
            s.host.volume.isAnchored (Volume.interpreterLimit + 1) other = true) →
          s'.host.volume = s.host.volume → started.image s'.host.volume = .ok probed) := by
  intro asked
  cases finds_of_resolve resolved with
  | path | installed => cases bare
  | nowhere => cases verified
  | @answered s₁ like answer =>
    obtain ⟨probed, start, answered, environment⟩ := of_ask_true answer
    obtain ⟨before, place, after, split, stops⟩ :=
      Launch.image_eq_ok_iff.mp (Launch.image_of_start start rfl)
    refine ⟨before, place, after, probed, split, stops, answered, fun p => ?_⟩
    intro started
    have places : started.places = asked.places := by
      change ({ asked with environment := s₁.host.environment } : Launch).places = asked.places
      rw [environment]
      rfl
    constructor
    · simp only [Launch.image_eq_ok_iff, places]
      constructor
      · rintro ⟨image, ⟨before', place', after', split', stops'⟩, same⟩
        exact ⟨before', place', after', image, split', stops', same⟩
      · rintro ⟨before', place', after', image, split', stops', same⟩
        exact ⟨image, ⟨before', place', after', split', stops'⟩, same⟩
    · intro anchored unchanged
      rw [unchanged]
      exact Launch.image_eq_ok_iff.mpr
        ⟨before, place, after, places.trans split, stops.of_isAnchored anchored _⟩

/-- An engine in a directory of the usual search path is the one that is started. -/
theorem resolve_verifies_file_desk :
    let bin : Name := ⟨"bin", by decide⟩
    let tex : Name := ⟨"tex", by decide⟩
    let v := (Builder.desk.host.volume.put [bin] (.directory 0o755)).putFile [tex, bin]
      ⟨Volume.utilityBytes "true", 0o755⟩
    let q : Search := ⟨"tex", some [], "linux"⟩
    let run := (q.resolve (Builder.greeting.probe (.whole 5))).runOn (Builder.desk.withVolume v)
    let tool : Tool := ⟨"tex", true, true⟩
    let p : Plan := ⟨Path.ofString "/s/cv.tex", Path.ofString "/b"⟩
    run = (.ok tool, run.2) ∧
      ∃ before place probed, Launch.StopsAt v [] before place probed ∧
        (p.launch tool run.2.host.environment).image run.2.host.volume = .ok probed := by
  intro bin tex v q run tool p
  have resolved : run = (.ok tool, run.2) := Act.runOn_eq_ok (by decide +kernel)
  obtain ⟨before, place, after, probed, split, stops, answered, starts⟩ :=
    resolve_verifies_file resolved rfl rfl
  have spelled : ∀ other ∈ (Programs.versionLaunch Builder.desk.host "tex").places,
      v.isAnchored (Volume.interpreterLimit + 1) other = true := by decide +kernel
  refine ⟨resolved, before, place, probed, stops, (starts p).2 (fun other among => ?_) ?_⟩
  · refine spelled other (split ▸ ?_)
    rw [List.append_cons]
    exact List.mem_append_left _ among
  · exact (congrArg Prod.snd answered).symm

/-- A search path with a relative entry leads to one engine from the directory at hand, which
answers, and to another one from the directory of the source, which is started. -/
theorem resolve_verifies_other_file :
    let q : Search := ⟨"tex", some [], "linux"⟩
    let s := twinDesk [("PATH", "alt")]
    let run := (q.resolve (Builder.greeting.probe (.whole 5))).runOn s
    let tool : Tool := ⟨"tex", true, true⟩
    let p : Plan := ⟨Path.ofString "/s/cv.tex", Path.ofString "/b"⟩
    let asked := Programs.versionLaunch s.host tool.command
    let started := p.launch tool run.2.host.environment
    run.1.toOption = some tool ∧
      (asked.start s.host.volume).toOption.map Image.file =
        some [⟨"tex", by decide⟩, ⟨"alt", by decide⟩] ∧
      (started.start run.2.host.volume).toOption.map Image.file =
        some [⟨"tex", by decide⟩, ⟨"alt", by decide⟩, ⟨"s", by decide⟩] := by
  decide +kernel

end TexBuild.Search
