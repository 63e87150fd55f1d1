import TexBuild.Command.Run
import TexBuild.Proofs.Build.Outcome
import TexBuild.Proofs.Text.Json.RoundTrip

namespace TexBuild

theorem Severity.ofText?_text (s : Severity) : Severity.ofText? s.text = some s := by
  cases s <;> rfl

theorem Failure.ofText?_text (f : Failure) : Failure.ofText? f.text = some f := by
  cases f <;> rfl

namespace Json
variable {α : Type}

def bool? : Json → Option Bool
  | .bool b => some b
  | _ => none

def whole? : Json → Option Int
  | .number n => some n
  | _ => none

def string? : Json → Option String
  | .string s => some s
  | _ => none

/-- A value that may be missing. -/
def orNull? (read : Json → Option α) : Json → Option (Option α)
  | .null => some none
  | x => (read x).map some

def list? (read : Json → Option α) : Json → Option (List α)
  | .array xs => xs.mapM read
  | _ => none

/-- The value of a field, if it has this name. -/
def named? (name : String) (read : Json → Option α) (field : String × Json) : Option α :=
  if field.1 = name then read field.2 else none

theorem named?_mk (name : String) (read : Json → Option α) (x : Json) :
    named? name read (name, x) = read x :=
  if_pos rfl

theorem list?_map {read : Json → Option α} {shown : α → Json} (reads : ∀ x, read (shown x) = some x)
    (xs : List α) : list? read (.array (xs.map shown)) = some xs := by
  rw [list?]
  induction xs with
  | nil => rfl
  | cons x xs ih =>
    rw [List.map_cons, List.mapM_cons, reads, ih]
    rfl

end Json

def Severity.ofJson? (x : Json) : Option Severity :=
  x.string?.bind Severity.ofText?

def Failure.ofJson? (x : Json) : Option Failure :=
  x.string?.bind Failure.ofText?

/-- A finding that is read from data: all its fields are there under their names, and no others. -/
def Diagnostic.ofJson? : Json → Option Diagnostic
  | .object [severity, message, file, line, column] => do
    return {
      severity := ← Json.named? "severity" Severity.ofJson? severity
      message := ← Json.named? "message" Json.string? message
      file := ← Json.named? "file" (Json.orNull? Json.string?) file
      line := ← Json.named? "line" (Json.orNull? Json.whole?) line
      column := ← Json.named? "column" (Json.orNull? Json.whole?) column }
  | _ => none

namespace Command
open Json

/-- What a build tells programs. -/
structure BuildRecord where
  success : Bool
  artifact : Option String
  rawLog : String
  milliseconds : Int
  message : Option String
  failure : Option Failure
  findings : List Diagnostic

/-- The fields of a result, and its findings. -/
def BuildRecord.of (r : BuildResult) (milliseconds : Int) (ds : List Diagnostic) : BuildRecord :=
  ⟨r.success, r.artifact?.map Path.text, r.rawLog, milliseconds, r.message?, r.failure?, ds⟩

/-- A record that is read from data: all its fields are there under their names, and no others. -/
def BuildRecord.ofJson? : Json → Option BuildRecord
  | .object [success, artifact, rawLog, milliseconds, message, failure, findings] => do
    return {
      success := ← named? "success" bool? success
      artifact := ← named? "artifact_path" (orNull? string?) artifact
      rawLog := ← named? "raw_log" string? rawLog
      milliseconds := ← named? "duration_ms" whole? milliseconds
      message := ← named? "error_message" (orNull? string?) message
      failure := ← named? "failure" (orNull? Failure.ofJson?) failure
      findings := ← named? "diagnostics" (list? Diagnostic.ofJson?) findings }
  | _ => none

theorem orNull?_jsonText (text : Option String) : orNull? string? (jsonText text) = some text := by
  cases text <;> rfl

theorem orNull?_failure (failure : Option Failure) :
    orNull? Failure.ofJson? (jsonText (failure.map Failure.text)) = some failure := by
  cases failure with
  | none => rfl
  | some f => exact congrArg (Option.map some) (Failure.ofText?_text f)

theorem orNull?_number (n : Option Int) : orNull? whole? ((n.map number).getD null) = some n := by
  cases n <;> rfl

theorem ofJson?_jsonFinding (d : Diagnostic) : Diagnostic.ofJson? (jsonFinding d) = some d := by
  have severity : Severity.ofJson? (.string d.severity.text) = some d.severity :=
    Severity.ofText?_text d.severity
  simp only [jsonFinding, Diagnostic.ofJson?, named?_mk, severity, string?, orNull?_jsonText,
    orNull?_number, Option.bind_eq_bind, Option.bind_some, Option.pure_def]

theorem ofJson?_fields {r : BuildResult} {fields : List (String × Json)}
    (written : jsonFields r = .ok fields) (ds : List Diagnostic) :
    ∃ ms, r.duration.milliseconds = .ok ms ∧
      BuildRecord.ofJson? (.object (fields ++ [("diagnostics", jsonFindings ds)])) =
        some (.of r ms ds) := by
  obtain ⟨ms, spans, same⟩ := bind_eq_ok_iff.mp written
  obtain rfl := Except.ok.inj same
  refine ⟨ms, mapError_eq_ok_iff.mp spans, ?_⟩
  have findings : list? Diagnostic.ofJson? (jsonFindings ds) = some ds :=
    list?_map ofJson?_jsonFinding ds
  simp only [List.cons_append, List.nil_append, BuildRecord.ofJson?, named?_mk, orNull?_jsonText,
    orNull?_failure, findings, bool?, string?, whole?, Option.bind_eq_bind, Option.bind_some,
    Option.pure_def, BuildRecord.of]

/-- An output hands a value to programs: it is one document, with a new line behind it, in ASCII,
and what is read from it stands for the value. -/
structure Hands {α : Type} (read : Json → Option α) (stdout : String) (x : α) : Prop where
  document : ∃ text document, stdout.toList = text ++ ['\n'] ∧ Json.read text = some document ∧
    read document = some x
  shown : ∀ c ∈ stdout.toList, IsShown c

theorem hands_render {α : Type} {read : Json → Option α} {document : Json} {x : α}
    (reads : read document = some x) : Hands read (lines [document.render]) x := by
  have printed : (lines [document.render]).toList = renderAt 0 document ++ ['\n'] := by
    simp [lines, render]
  have whole := read_render document
  rw [render, String.toList_ofList] at whole
  refine ⟨⟨_, document, printed, whole, reads⟩, fun c inside => ?_⟩
  rw [printed] at inside
  obtain inside | last := List.mem_append.mp inside
  · exact isShown_renderAt inside
  · rw [List.mem_singleton.mp last]
    decide

/-- A build from the command line opens its journal and returns a result. -/
def Builds (s : Setup) (r : BuildRequest) (σ : Session) (journal : Journal) (result : BuildResult)
    (done : Session) : Prop :=
  let b : Builder := ⟨searchFor s r.engine, r.directory, r.limit, r.verbose⟩
  ∃ opened,
    (Journal.startBuild s.provenance (logDirectory s) r.verbose).runOn σ = (.ok journal, opened) ∧
    (b.compile s.programs (s.programs.probe s.probeLimit) place r.source).runOn opened =
      (.ok result, done)

variable {s : Setup} {σ σ' : Session} {p : Printed}

/-- What a build that is asked for a document prints. -/
theorem build_hands_document {r : BuildRequest} (asked : r.asJson = true)
    (ran : (build s r).runOn σ = (.ok p, σ')) :
    ∃ journal result done ms ds, Builds s r σ journal result done ∧
      result.duration.milliseconds = .ok ms ∧ Diagnostic.parse result.rawLog.toList = .ok ds ∧
      Hands BuildRecord.ofJson? p.stdout (.of result ms ds) ∧
      p.stderr = journal.shown done.journal := by
  obtain ⟨journal, opened, started, ran⟩ := Act.runOn_bind_eq_ok_iff.mp ran
  obtain ⟨ended, done, compiled, ran⟩ := Act.runOn_bind_eq_ok_iff.mp ran
  simp only [Act.runOn_bind_eq_ok_iff, Act.runOn_ofExcept_eq_ok_iff, Act.runOn_get, Prod.mk.injEq,
    Except.ok.injEq, asked, if_true, Act.runOn_pure] at ran
  obtain ⟨_, _, ⟨rfl, rfl⟩, -, -, -, result, _, ⟨rfl, rfl⟩, ds, _, ⟨found, rfl⟩, fields, _, ⟨written, rfl⟩,
    rfl, -⟩ := ran
  obtain ⟨ms, spans, reads⟩ := ofJson?_fields written ds
  exact ⟨journal, result, done, ms, ds, ⟨opened, started, Act.runOn_attempt_eq_ok_iff.mp compiled⟩, spans,
    mapError_eq_ok_iff.mp found, hands_render reads, rfl⟩

/-- What the reading of a log that is asked for a document prints. -/
theorem diagnose_hands_document {r : LogRequest} (asked : r.asJson = true)
    (ran : (diagnose r).runOn σ = (.ok p, σ')) :
    ∃ text ds, readLog σ.host r = .ok text ∧ Diagnostic.parse text = .ok ds ∧
      Hands (list? Diagnostic.ofJson?) p.stdout ds ∧ p.stderr = "" := by
  simp only [diagnose, Act.ask, Act.runOn_bind_eq_ok_iff, Act.runOn_host, Act.runOn_ofExcept_eq_ok_iff,
    Act.runOn_pure, Prod.mk.injEq, Except.ok.injEq, logText, asked, if_true] at ran
  obtain ⟨text, _, ⟨_, _, ⟨rfl, rfl⟩, shown, rfl⟩, ds, _, ⟨found, rfl⟩, rfl, -⟩ := ran
  have parsed := mapError_eq_ok_iff.mp found
  rw [String.toList_ofList] at parsed
  exact ⟨text, ds, shown, parsed, hands_render (list?_map ofJson?_jsonFinding ds), rfl⟩

/-- A command line that asks for a document gets it: what it prints is one document in ASCII and a new
line, from which all fields of the result of a build and its findings are read back, or the
findings in a log. The records of a build go to the other stream. -/
theorem run_hands_document {arguments : List String}
    (ran : (run s arguments).runOn σ = (.ok p, σ')) :
    (∀ r, Request.parse σ.host arguments = some (.build r) → r.asJson = true →
      ∃ journal result done ms ds, Builds s r σ journal result done ∧
        result.duration.milliseconds = .ok ms ∧ Diagnostic.parse result.rawLog.toList = .ok ds ∧
        Hands BuildRecord.ofJson? p.stdout (.of result ms ds) ∧
        p.stderr = journal.shown done.journal) ∧
    ∀ r, Request.parse σ.host arguments = some (.diagnose r) → r.asJson = true →
      ∃ text ds, readLog σ.host r = .ok text ∧ Diagnostic.parse text = .ok ds ∧
        Hands (list? Diagnostic.ofJson?) p.stdout ds ∧ p.stderr = "" := by
  have performed {r : Request} (request : Request.parse σ.host arguments = some r) :
      (perform s r).runOn σ = (.ok p, σ') := by
    obtain ⟨_, _, looked, ran⟩ := Act.runOn_bind_eq_ok_iff.mp ran
    cases looked
    rwa [request] at ran
  exact ⟨fun r request asked => build_hands_document asked (performed request),
    fun r request asked => diagnose_hands_document asked (performed request)⟩

/-- A program on the desk, whose engine greets. -/
def deskSetup : Setup :=
  ⟨Builder.greeting, .whole 5, "/tex", "linux", none, ⟨["resumeide"], "3.11", ⟨2025, 1, 2, 3, 4, 5, 0⟩⟩, "",
    fun _ => ""⟩

/-- The desk with a log beside the source: an error, and the line that it is on. -/
def loggedDesk : Session :=
  Builder.desk.withVolume (Builder.desk.host.volume.putFile (Path.ofString "/s/cv.log").names.reverse
    ⟨[0x21, 0x20, 0xE9, 0x22, 0x0A, 0x6C, 0x2E, 0x33], 0o644⟩)

/-- A build and the reading of a log on the desk; the error is read back with its accent and quote. -/
theorem run_hands_document_desk :
    let build : BuildRequest :=
      ⟨Path.ofString "/s/cv.tex", false, none, some (Path.ofString "/b"), none, true⟩
    let log : LogRequest := ⟨Path.ofString "/s/cv.log", "latin-1", true, 50⟩
    (∃ p σ' journal result done ms ds,
      Request.parse loggedDesk.host ["compile", "--json", "-b", "/b", "/s/cv.tex"] = some (.build build) ∧
      (run deskSetup ["compile", "--json", "-b", "/b", "/s/cv.tex"]).runOn loggedDesk = (.ok p, σ') ∧
      Builds deskSetup build loggedDesk journal result done ∧
      Hands BuildRecord.ofJson? p.stdout (.of result ms ds)) ∧
    ∃ p σ',
      Request.parse loggedDesk.host ["diagnose", "--json", "/s/cv.log"] = some (.diagnose log) ∧
      (run deskSetup ["diagnose", "--json", "/s/cv.log"]).runOn loggedDesk = (.ok p, σ') ∧
      readLog loggedDesk.host log = .ok "! é\"\nl.3".toList ∧
      Hands (list? Diagnostic.ofJson?) p.stdout [⟨.error, "é\"", none, some 3, none⟩] := by
  intro build log
  have building : Request.parse loggedDesk.host ["compile", "--json", "-b", "/b", "/s/cv.tex"] =
      some (.build build) := by rfl
  have reading : Request.parse loggedDesk.host ["diagnose", "--json", "/s/cv.log"] =
      some (.diagnose log) := by rfl
  obtain ⟨p, built⟩ := Option.isSome_iff_exists.mp (show ((run deskSetup
    ["compile", "--json", "-b", "/b", "/s/cv.tex"]).runOn loggedDesk).1.toOption.isSome = true by
      decide +kernel)
  obtain ⟨q, found⟩ := Option.isSome_iff_exists.mp (show ((run deskSetup
    ["diagnose", "--json", "/s/cv.log"]).runOn loggedDesk).1.toOption.isSome = true by decide +kernel)
  obtain ⟨journal, result, done, ms, ds, builds, -, -, hands, -⟩ :=
    (run_hands_document (Act.runOn_eq_ok built)).1 build building rfl
  obtain ⟨text, ds', read, parsed, hands', -⟩ :=
    (run_hands_document (Act.runOn_eq_ok found)).2 log reading rfl
  have seen : readLog loggedDesk.host log = .ok "! é\"\nl.3".toList := by decide +kernel
  have findings : Diagnostic.parse "! é\"\nl.3".toList =
      .ok [⟨.error, "é\"", none, some 3, none⟩] := by decide +kernel
  rw [seen] at read
  cases read
  rw [findings] at parsed
  cases parsed
  exact ⟨⟨p, _, journal, result, done, ms, ds, building, Act.runOn_eq_ok built, builds, hands⟩,
    q, _, reading, Act.runOn_eq_ok found, seen, hands'⟩

end Command

end TexBuild
