import TexBuild.Proofs.Command.Document
import TexBuild.Proofs.Report.Accounts

namespace TexBuild.Command

/-- Lines tell of findings if they list them under a title up to the usual number, and count the
others. Where there are none, there is nothing to tell. -/
def TellsFindings (ds : List Diagnostic) (told : List String) : Prop :=
  ds = [] ∨ ∃ report, told = "\nDiagnostics:" :: report ∧ Report.Lists 10 ds report

variable {s : Setup} {σ σ' : Session} {p : Printed} {result : BuildResult} {ds : List Diagnostic}
  {verbose : Bool}

theorem findingLines_of_asked (asked : verbose = true ∨ result.success = false) (some : ds ≠ []) :
    findingLines result ds verbose = "\nDiagnostics:" :: Report.listing ds buildListing :=
  if_pos ⟨some, by simpa using asked⟩

theorem findingLines_of_success (quiet : ¬ (verbose = true ∨ result.success = false)) :
    findingLines result ds verbose = [] :=
  if_neg fun both => quiet (by simpa using both.2)

theorem tellsFindings_findingLines_iff :
    TellsFindings ds (findingLines result ds verbose) ↔
      ds = [] ∨ verbose = true ∨ result.success = false := by
  constructor
  · rintro (none | ⟨report, told, -⟩)
    · exact .inl none
    · by_contra! quiet
      rw [findingLines_of_success (by simpa using quiet.2)] at told
      cases told
  · rintro (none | asked)
    · exact .inl none
    · by_cases none : ds = []
      · exact .inl none
      · have listed : Report.Lists buildListing.toNat ds (Report.listing ds buildListing) :=
          Report.accounts_listing (by decide) ds
        exact .inr ⟨_, findingLines_of_asked asked none, listed⟩

/-- What a build that is asked for a text prints, once its records are in the log. -/
theorem build_prints_text {r : BuildRequest} (plain : r.asJson = false)
    (ran : (build s r).runOn σ = (.ok p, σ')) :
    ∃ journal result done ds, Builds s r σ journal result done ∧
      (journal.save done.journal).runOn done = (.ok (), σ') ∧
      Diagnostic.parse result.rawLog.toList = .ok ds ∧
      buildText σ'.host result ds r.verbose (journal.file.map (·.1)) = .ok p.stdout := by
  obtain ⟨journal, opened, started, ran⟩ := Act.runOn_bind_eq_ok_iff.mp ran
  obtain ⟨ended, done, compiled, ran⟩ := Act.runOn_bind_eq_ok_iff.mp ran
  simp only [Act.runOn_bind_eq_ok_iff, Act.runOn_ofExcept_eq_ok_iff, Act.runOn_get, Prod.mk.injEq,
    Except.ok.injEq, plain, Bool.false_eq_true, if_false, Act.runOn_pure, Act.ask,
    Act.runOn_host] at ran
  obtain ⟨_, _, ⟨rfl, rfl⟩, _, _, saved, result, _, ⟨rfl, rfl⟩, ds, _, ⟨found, rfl⟩, text, _,
    ⟨_, _, ⟨rfl, rfl⟩, told, rfl⟩, rfl, rfl⟩ := ran
  exact ⟨journal, result, done, ds, ⟨opened, started, Act.runOn_attempt_eq_ok_iff.mp compiled⟩, saved,
    mapError_eq_ok_iff.mp found, told⟩

/-- What a build that is asked for a text tells about its findings stands between its time and its
log. It tells all that there is to tell exactly if there are no findings, if more is asked for or if
the build failed; else it tells nothing. -/
theorem run_tells_findings_iff {arguments : List String}
    (ran : (run s arguments).runOn σ = (.ok p, σ')) :
    ∀ r, Request.parse σ.host arguments = some (.build r) → r.asJson = false →
      ∃ journal result done ds, Builds s r σ journal result done ∧
        Diagnostic.parse result.rawLog.toList = .ok ds ∧
        ∃ head elapsed told close, Heads σ'.host ds result.outcome head ∧
          result.duration.clock = .ok elapsed ∧
          Closes σ'.host (journal.file.map (·.1)) close ∧
          p.stdout = lines ([""] ++ head ++ [s!"  Time: {elapsed}"] ++ told ++ close ++ [""]) ∧
          (TellsFindings ds told ↔ ds = [] ∨ r.verbose = true ∨ result.success = false) ∧
          (¬ TellsFindings ds told → told = []) := by
  intro r request plain
  obtain ⟨_, _, looked, ran⟩ := Act.runOn_bind_eq_ok_iff.mp ran
  cases looked
  rw [request] at ran
  obtain ⟨journal, result, done, ds, builds, -, found, told⟩ := build_prints_text plain ran
  obtain ⟨head, elapsed, close, heads, clock, closes, text⟩ := exists_of_buildText_eq_ok told
  refine ⟨journal, result, done, ds, builds, found, head, elapsed, _, close, heads, clock, closes,
    text, tellsFindings_findingLines_iff, fun silent => ?_⟩
  rw [tellsFindings_findingLines_iff] at silent
  exact findingLines_of_success fun asked => silent (.inr asked)

/-- The program on the desk, with an engine that warns and leaves a document of one octet. -/
def warningSetup : Setup :=
  { deskSetup with
    programs := {
      answers := fun _ _ _ v => (true, v)
      shows := fun _ _ _ v =>
        ⟨[.started, .wrote .stdout (Utf8.encode "warning: w".toList), .read .stdout 16,
            .ended (.code 0), .reaped, .hungUp .stdout, .hungUp .stderr, .read .stdout 16,
            .read .stderr 16],
          v.putFile (Path.ofString "/b/cv.pdf").names.reverse ⟨[37], 0o644⟩⟩ } }

/-- A build on the desk that is asked for a text, and for more of it or not. -/
def deskRequest (verbose : Bool) : BuildRequest :=
  ⟨Path.ofString "/s/cv.tex", verbose, none, some (Path.ofString "/b"), none, false⟩

/-- A build on the desk whose engine warns. Asked for more, it tells of its findings. -/
theorem run_tells_findings_iff_desk :
    let arguments := ["compile", "-v", "-b", "/b", "/s/cv.tex"]
    ∃ p σ' ds told, (run warningSetup arguments).runOn Builder.desk = (.ok p, σ') ∧
      Request.parse Builder.desk.host arguments = some (.build (deskRequest true)) ∧
      TellsFindings ds told ∧ ∃ before after, p.stdout = lines (before ++ told ++ after) := by
  intro arguments
  have request : Request.parse Builder.desk.host arguments = some (.build (deskRequest true)) := by rfl
  obtain ⟨p, built⟩ := Option.isSome_iff_exists.mp (show
    ((run warningSetup arguments).runOn Builder.desk).1.toOption.isSome = true by decide +kernel)
  obtain ⟨journal, result, done, ds, -, -, head, elapsed, told, close, -, -, -, text, tells, -⟩ :=
    run_tells_findings_iff (Act.runOn_eq_ok built) _ request rfl
  refine ⟨p, _, ds, told, Act.runOn_eq_ok built, request, tells.mpr (.inr (.inl rfl)), _,
    close ++ [""], text.trans (congrArg lines (List.append_assoc _ close [""]))⟩

/-- A build on the desk whose engine warns goes well and tells nothing about the warning but that
there is one. -/
theorem run_hides_warning :
    let arguments := ["compile", "-b", "/b", "/s/cv.tex"]
    let text := lines ["", goodEnd "Compilation succeeded", "  Warnings: 1", "  PDF: s/cv.pdf",
      "  Time: 0ms", ""]
    ∃ p σ' journal result done,
      Request.parse Builder.desk.host arguments = some (.build (deskRequest false)) ∧
      (run warningSetup arguments).runOn Builder.desk = (.ok p, σ') ∧
      Builds warningSetup (deskRequest false) Builder.desk journal result done ∧
      Diagnostic.parse result.rawLog.toList = .ok [.plain .warning "w"] ∧
      p.stdout = text ∧ Text.holds "warning: w".toList text.toList = false ∧
      Text.holds "more".toList text.toList = false := by
  intro arguments text
  have request : Request.parse Builder.desk.host arguments = some (.build (deskRequest false)) := by
    rfl
  obtain ⟨journal, opened⟩ := Option.isSome_iff_exists.mp (show
    ((Journal.startBuild warningSetup.provenance (logDirectory warningSetup) false).runOn
      Builder.desk).1.toOption.isSome = true by decide +kernel)
  have started := Act.runOn_eq_ok opened
  obtain ⟨p, built, printed⟩ := Option.map_eq_some_iff.mp (show
    ((run warningSetup arguments).runOn Builder.desk).1.toOption.map Printed.stdout = some text by
      decide +kernel)
  exact ⟨p, _, journal, ⟨.built (Path.ofString "/s/cv.pdf"), "warning: w\n", .zero⟩, _, request,
    Act.runOn_eq_ok built, ⟨_, started, Act.runOn_eq_ok (by decide +kernel)⟩, by decide +kernel,
    printed, by decide +kernel, by decide +kernel⟩

end TexBuild.Command
