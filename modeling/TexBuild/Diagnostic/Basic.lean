namespace TexBuild

/-- How grave a finding of the engine is. -/
inductive Severity where
  | error
  | warning
  | info
deriving DecidableEq, Repr

namespace Severity

/-- All severities, in the order of reports. -/
def all : List Severity :=
  [.error, .warning, .info]

theorem mem_all (s : Severity) : s ∈ all := by
  cases s <;> simp [all]

/-- The word for a severity. -/
def text : Severity → String
  | .error => "error"
  | .warning => "warning"
  | .info => "info"

/-- The severity that a word stands for. -/
def ofText? (word : String) : Option Severity :=
  all.find? (fun s => s.text == word)

end Severity

/-- A finding of the engine, with as much of its place in the source as is
known. -/
structure Diagnostic where
  severity : Severity
  message : String
  file : Option String
  line : Option Int
  column : Option Int
deriving DecidableEq, Repr

namespace Diagnostic

/-- A finding whose place is not known. -/
def plain (severity : Severity) (message : String) : Diagnostic :=
  ⟨severity, message, none, none, none⟩

/-- Gives a finding its line, unless it has one; the answer tells whether the
line was still open. -/
def attachLine (d : Diagnostic) (line : Option Int) : Bool × Diagnostic :=
  match d.line with
  | some _ => (false, d)
  | none => (true, { d with line := line })

/-- The parts of a place, each of which may be found out later. -/
inductive PlaceField where
  | file
  | line
  | column
deriving DecidableEq, Repr

/-- The word for a part of a place. -/
def PlaceField.text : PlaceField → String
  | .file => "file"
  | .line => "line"
  | .column => "column"

/-- A new value for one field of a finding. -/
inductive Assignment where
  | severity (word : String)
  | message (text : String)
  | file (name : Option String)
  | line (number : Option Int)
  | column (number : Option Int)
deriving DecidableEq, Repr

/-- Why an assignment is refused: the word is no severity, the severity is fixed
from the start, or a known part of the place would be lost. -/
inductive AssignError where
  | unknownSeverity (word : String)
  | severityFixed
  | cleared (field : PlaceField)
deriving DecidableEq, Repr

/-- A part of a place may be set at any time but not cleared. -/
def refuseClearing {α : Type} (field : PlaceField) (old new : Option α) :
    Except AssignError Unit :=
  if old.isSome && new.isNone then .error (.cleared field) else .ok ()

/-- The finding after an assignment. -/
def assign (d : Diagnostic) : Assignment → Except AssignError Diagnostic
  | .severity word =>
    match Severity.ofText? word with
    | none => .error (.unknownSeverity word)
    | some _ => .error .severityFixed
  | .message text => .ok { d with message := text }
  | .file name => do
    refuseClearing .file d.file name
    return { d with file := name }
  | .line number => do
    refuseClearing .line d.line number
    return { d with line := number }
  | .column number => do
    refuseClearing .column d.column number
    return { d with column := number }

/-- The number of findings of one severity. -/
def count (s : Severity) (ds : List Diagnostic) : Nat :=
  ds.countP (fun d => d.severity == s)

/-- The findings of one severity. -/
def select (s : Severity) (ds : List Diagnostic) : List Diagnostic :=
  ds.filter (fun d => d.severity == s)

theorem length_select (s : Severity) (ds : List Diagnostic) :
    (select s ds).length = count s ds := by
  simp [select, count, List.countP_eq_length_filter]

end Diagnostic

end TexBuild
