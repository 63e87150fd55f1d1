import TexBuild.Command.Run
import TexBuild.Proofs.Except

namespace TexBuild.Command

variable {h : Host} {r : BuildResult} {ds : List Diagnostic} {verbose : Bool} {log : Option Path}
  {text : String}

/-- The lines about the outcome of a build with the given findings. -/
inductive Heads (h : Host) (ds : List Diagnostic) : Outcome → List String → Prop
  | built {artifact place} : displayed h artifact = .ok place →
      Heads h ds (.built artifact) [goodEnd "Compilation succeeded",
        s!"  Warnings: {Diagnostic.count .warning ds}", s!"  PDF: {place}"]
  | failed {failure message} :
      Heads h ds (.failed failure message) [badEnd message, s!"  Errors: {Diagnostic.count .error ds}"]

/-- The line about the log that is kept, if there is one. -/
inductive Closes (h : Host) : Option Path → List String → Prop
  | unkept : Closes h none []
  | kept {log place} : displayed h log = .ok place → Closes h (some log) [s!"  Log: {place}"]

/-- The lines about the findings. There are none about those of a build that went well, unless more
is asked for. -/
def findingLines (r : BuildResult) (ds : List Diagnostic) (verbose : Bool) : List String :=
  if ds ≠ [] ∧ (verbose ∨ !r.success) then "\nDiagnostics:" :: Report.listing ds buildListing else []

/-- What a build tells ends with the line about its log. -/
theorem exists_close {before : List String}
    (told : (match log with
      | some p => do
        let shown ← displayed h p
        let logLine ← pure [s!"  Log: {shown}"]
        pure (lines (before ++ logLine ++ [""]))
      | none => do
        let logLine ← pure []
        pure (lines (before ++ logLine ++ [""]))) = Except.ok text) :
    ∃ close, Closes h log close ∧ text = lines (before ++ close ++ [""]) := by
  cases log with
  | none =>
    cases told
    exact ⟨[], .unkept, rfl⟩
  | some p =>
    obtain ⟨place, shown, told⟩ := bind_eq_ok_iff.mp told
    cases told
    exact ⟨_, .kept shown, rfl⟩

theorem exists_of_buildText_eq_ok (told : buildText h r ds verbose log = .ok text) :
    ∃ head elapsed close, Heads h ds r.outcome head ∧ r.duration.clock = .ok elapsed ∧
      Closes h log close ∧
      text = lines ([""] ++ head ++ [s!"  Time: {elapsed}"] ++ findingLines r ds verbose ++
        close ++ [""]) := by
  unfold buildText at told
  cases outcome : r.outcome with
  | built artifact =>
    simp only [outcome] at told
    obtain ⟨place, shown, told⟩ := bind_eq_ok_iff.mp told
    obtain ⟨head, made, told⟩ := bind_eq_ok_iff.mp told
    obtain ⟨elapsed, clock, told⟩ := bind_eq_ok_iff.mp told
    cases made
    obtain ⟨close, closes, rfl⟩ := exists_close told
    exact ⟨_, elapsed, close, .built shown, mapError_eq_ok_iff.mp clock, closes, rfl⟩
  | failed failure message =>
    simp only [outcome] at told
    obtain ⟨head, made, told⟩ := bind_eq_ok_iff.mp told
    obtain ⟨elapsed, clock, told⟩ := bind_eq_ok_iff.mp told
    cases made
    obtain ⟨close, closes, rfl⟩ := exists_close told
    exact ⟨_, elapsed, close, .failed, mapError_eq_ok_iff.mp clock, closes, rfl⟩

end TexBuild.Command
