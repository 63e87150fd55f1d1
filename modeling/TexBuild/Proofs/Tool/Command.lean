import TexBuild.Proofs.Build.Launch
import TexBuild.Proofs.Build.Outcome
import TexBuild.Proofs.Host.Resolution
import TexBuild.Proofs.Tool.Finding

namespace TexBuild.Search

variable {q : Search} {probe : Probe} {s s' s₁ s₂ : Session} {tool : Tool} {path path' : Path}
  {command text : String}

/-- A search picks one candidate. -/
theorem Picks.unique (picks : q.Picks probe s path s₁) (other : q.Picks probe s path' s₂) :
    path = path' := by
  obtain ⟨-, t, paths, asked, searched, first⟩ := picks
  obtain ⟨-, t', paths', asked', searched', first'⟩ := other
  cases asked.symm.trans asked'
  cases searched.symm.trans searched'
  exact Option.some.inj (first.symm.trans first')

theorem isAbsolute_of_absoluteCommand {h : Host} (named : absoluteCommand h command = .ok text) :
    (Path.ofString text).IsAbsolute := by
  unfold absoluteCommand at named
  rcases resolved : h.resolve (Path.ofString command) with f | p
  · simp only [resolved] at named
    split at named
    case isFalse => cases named
    obtain ⟨directory, here, made⟩ := bind_eq_ok_iff.mp named
    cases made
    rw [Path.isAbsolute_ofString_text]
    refine Path.IsAbsolute.join ?_ _
    unfold Host.workingDirectory at here
    split at here
    · cases here
      nofun
    · cases here
  · simp only [resolved] at named
    cases named
    rw [Path.isAbsolute_ofString_text]
    exact Host.isAbsolute_of_resolve resolved

/-- An engine that is not looked for on the search path is named by an absolute path exactly if
the candidate that is picked, if one is, is absolute. From wherever such a path is read, it then
leads to the file that is started. -/
theorem resolve_names_file (resolved : (q.resolve probe).runOn s = (.ok tool, s'))
    (named : tool.isBare = false) :
    ((Path.ofString tool.command).IsAbsolute ↔
        ∀ path s₂, q.Picks probe s path s₂ → path.IsAbsolute) ∧
      ((Path.ofString tool.command).IsAbsolute → ∀ (p : Plan) environment v image,
        (p.launch tool environment).start v = .ok image →
          ∀ directory, ∃ e, v.find directory tool.command = .ok (image.file, e)) := by
  constructor
  · cases finds_of_resolve resolved with
    | path like absolute =>
      refine iff_of_true (isAbsolute_of_absoluteCommand absolute) fun path s₂ picks => ?_
      rw [picks.1] at like
      cases like
    | installed picks asked =>
      rw [Path.isAbsolute_ofString_text]
      refine ⟨fun absolute path' s₂ other => ?_, fun absolute => absolute _ _ picks⟩
      rwa [← picks.unique other]
    | answered | nowhere => cases named
  · intro absolute p environment v image started directory
    obtain ⟨_, loaded⟩ := Launch.load_of_isAbsolute started absolute
    obtain ⟨e, found⟩ := Volume.find_of_load loaded
    exact ⟨e, (Volume.find_of_isAbsolute absolute directory _).trans found⟩

/-- The first of two candidates is not there, the second one is absolute. -/
theorem resolve_names_file_desk :
    let q : Search := ⟨"tex", some [Path.ofString "alt/tex", Path.ofString "/tex"], "linux"⟩
    let run := (q.resolve (Builder.greeting.probe (.whole 5))).runOn Builder.desk
    let v := Builder.desk.host.volume
    let tool : Tool := ⟨"/tex", false, true⟩
    let p : Plan := ⟨Path.ofString "/s/cv.tex", Path.ofString "/b"⟩
    run = (.ok tool, run.2) ∧
      ∃ image, (p.launch tool []).start v = .ok image ∧ (Path.ofString tool.command).IsAbsolute ∧
        ∀ directory, ∃ e, v.find directory tool.command = .ok (image.file, e) := by
  intro q run v tool p
  have resolved : run = (.ok tool, run.2) := Act.runOn_eq_ok (by decide +kernel)
  obtain ⟨-, same⟩ := resolve_names_file resolved rfl
  have absolute : (Path.ofString tool.command).IsAbsolute := by decide +kernel
  have started : (p.launch tool []).start v = .ok ⟨[⟨"tex", by decide⟩], "true", ["/tex"]⟩ :=
    toOption_eq_some_iff.mp (by decide +kernel)
  exact ⟨resolved, _, started, absolute, same absolute p [] v _ started⟩

/-- The desk with two engines of one name, below the directory at hand and below that of the
source. -/
def twinDesk (environment : Environment) : Session :=
  let place (text : String) : Loc := (Path.ofString text).names.reverse
  let v := (Builder.desk.host.volume.put (place "/alt") (.directory 0o755)).put (place "/s/alt")
    (.directory 0o755)
  let v := v.putFile (place "/alt/tex") ⟨Volume.utilityBytes "true", 0o755⟩
  let v := v.putFile (place "/s/alt/tex") ⟨Volume.utilityBytes "false", 0o755⟩
  { Builder.desk with host := { Builder.desk.host with volume := v, environment } }

/-- A candidate below the directory at hand is there, but what is started is the file of that name
below the directory of the source. -/
theorem resolve_names_other_file :
    let q : Search := ⟨"tex", some [Path.ofString "alt/tex"], "linux"⟩
    let run := (q.resolve (Builder.greeting.probe (.whole 5))).runOn (twinDesk [])
    let tool : Tool := ⟨"alt/tex", false, true⟩
    let p : Plan := ⟨Path.ofString "/s/cv.tex", Path.ofString "/b"⟩
    let v := run.2.host.volume
    run.1.toOption = some tool ∧ ¬ (Path.ofString tool.command).IsAbsolute ∧
      (v.find run.2.host.cwd tool.command).toOption.map Prod.fst =
        some [⟨"tex", by decide⟩, ⟨"alt", by decide⟩] ∧
      ((p.launch tool []).start v).toOption.map Image.file =
        some [⟨"tex", by decide⟩, ⟨"alt", by decide⟩, ⟨"s", by decide⟩] := by
  decide +kernel

end TexBuild.Search
