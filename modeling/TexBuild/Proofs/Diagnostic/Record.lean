import TexBuild.Diagnostic.Basic

namespace TexBuild.Diagnostic

/-- The fields of a finding. -/
inductive Field where
  | severity
  | message
  | place (part : PlaceField)
deriving DecidableEq

/-- A use of a finding that is made: it is given its line, or a field is assigned. -/
inductive Edit where
  | attach (line : Option Int)
  | assign (new : Assignment)
deriving DecidableEq

/-- What an edit answers: whether the line was still open, or whether the assignment is made. -/
inductive Answer where
  | attached (wasOpen : Bool)
  | assigned
  | refused (why : AssignError)
deriving DecidableEq

/-- The answer of an edit and the finding after it. -/
def edit (d : Diagnostic) : Edit → Answer × Diagnostic
  | .attach line => (.attached (d.attachLine line).1, (d.attachLine line).2)
  | .assign new =>
    match d.assign new with
    | .ok d' => (.assigned, d')
    | .error why => (.refused why, d)

/-- The finding after some edits. -/
def run (d : Diagnostic) (edits : List Edit) : Diagnostic :=
  edits.foldl (fun d e => (d.edit e).2) d

/-- The field that an assignment is about. -/
def Assignment.field : Assignment → Field
  | .severity _ => .severity
  | .message _ => .message
  | .file _ => .place .file
  | .line _ => .place .line
  | .column _ => .place .column

/-- The field that an edit is about. -/
def Edit.field : Edit → Field
  | .attach _ => .place .line
  | .assign new => new.field

/-- The field that a refusal is about. -/
def AssignError.field : AssignError → Field
  | .unknownSeverity _ | .severityFixed => .severity
  | .cleared part => .place part

/-- A part of the place is known. -/
def Knows (d : Diagnostic) : PlaceField → Prop
  | .file => d.file ≠ none
  | .line => d.line ≠ none
  | .column => d.column ≠ none

/-- Two findings are the same in one field. -/
def AgreeAt (d d' : Diagnostic) : Field → Prop
  | .severity => d.severity = d'.severity
  | .message => d.message = d'.message
  | .place .file => d.file = d'.file
  | .place .line => d.line = d'.line
  | .place .column => d.column = d'.column

/-- A finding has the value of an assignment. -/
def Carries (d : Diagnostic) : Assignment → Prop
  | .severity word => d.severity.text = word
  | .message text => d.message = text
  | .file name => d.file = name
  | .line number => d.line = number
  | .column number => d.column = number

/-- An assignment would change the severity or lose a known part of the place. -/
def Forbids (d : Diagnostic) : Assignment → Prop
  | .severity _ => True
  | .message _ => False
  | .file name => d.file ≠ none ∧ name = none
  | .line number => d.line ≠ none ∧ number = none
  | .column number => d.column ≠ none ∧ number = none

/-- What an edit of a finding answers and leaves. -/
structure Edited (d : Diagnostic) (e : Edit) (answer : Answer) (d' : Diagnostic) : Prop where
  severity : d'.severity = d.severity
  knows : ∀ part, d.Knows part → d'.Knows part
  others : ∀ field, field ≠ e.field → d'.AgreeAt d field
  attached : ∀ line, e = .attach line → answer = .attached (decide (d.line = none)) ∧
    d'.line = if d.line = none then line else d.line
  assigned : ∀ new, e = .assign new → ¬ d.Forbids new → answer = .assigned ∧ d'.Carries new
  refused : ∀ new, e = .assign new → d.Forbids new →
    ∃ why, answer = .refused why ∧ why.field = new.field
  unchanged : ∀ why, answer = .refused why → d' = d

variable {d d' : Diagnostic} {new : Assignment} {field : Field} {part : PlaceField}

theorem AgreeAt.refl (d : Diagnostic) (field : Field) : d.AgreeAt d field := by
  rcases field with _ | _ | _ | _ | _ <;> rfl

theorem AgreeAt.knows (same : d'.AgreeAt d (.place part)) (known : d.Knows part) :
    d'.Knows part := by
  cases part with
  | file => exact fun lost => known (same.symm.trans lost)
  | line => exact fun lost => known (same.symm.trans lost)
  | column => exact fun lost => known (same.symm.trans lost)

theorem agreeAt_of_ne_message {text : String} (other : field ≠ .message) :
    AgreeAt { d with message := text } d field := by
  rcases field with _ | _ | _ | _ | _
  case message => exact absurd rfl other
  all_goals rfl

theorem agreeAt_of_ne_file {name : Option String} (other : field ≠ .place .file) :
    AgreeAt { d with file := name } d field := by
  rcases field with _ | _ | _ | _ | _
  case place.file => exact absurd rfl other
  all_goals rfl

theorem agreeAt_of_ne_line {number : Option Int} (other : field ≠ .place .line) :
    AgreeAt { d with line := number } d field := by
  rcases field with _ | _ | _ | _ | _
  case place.line => exact absurd rfl other
  all_goals rfl

theorem agreeAt_of_ne_column {number : Option Int} (other : field ≠ .place .column) :
    AgreeAt { d with column := number } d field := by
  rcases field with _ | _ | _ | _ | _
  case place.column => exact absurd rfl other
  all_goals rfl

section Guard

variable {α : Type} {old value : Option α}

theorem refuseClearing_of_lost (known : old ≠ none) (lost : value = none) :
    refuseClearing part old value = .error (.cleared part) := by
  obtain ⟨x, rfl⟩ := Option.ne_none_iff_exists'.mp known
  subst lost
  rfl

theorem refuseClearing_of_kept (kept : ¬ (old ≠ none ∧ value = none)) :
    refuseClearing part old value = .ok () := by
  cases old with
  | none => rfl
  | some x =>
    cases value with
    | none => exact absurd ⟨nofun, rfl⟩ kept
    | some y => rfl

end Guard

/-- A refusal is about the field of the assignment. -/
theorem assign_of_forbids (forbidden : d.Forbids new) :
    ∃ why, d.assign new = .error why ∧ why.field = new.field := by
  cases new with
  | severity word =>
    rw [assign]
    cases Severity.ofText? word with
    | none => exact ⟨.unknownSeverity word, rfl, rfl⟩
    | some s => exact ⟨.severityFixed, rfl, rfl⟩
  | message text => exact forbidden.elim
  | file name =>
    rw [assign, refuseClearing_of_lost forbidden.1 forbidden.2]
    exact ⟨.cleared .file, rfl, rfl⟩
  | line number =>
    rw [assign, refuseClearing_of_lost forbidden.1 forbidden.2]
    exact ⟨.cleared .line, rfl, rfl⟩
  | column number =>
    rw [assign, refuseClearing_of_lost forbidden.1 forbidden.2]
    exact ⟨.cleared .column, rfl, rfl⟩

/-- An assignment that is not forbidden changes its own field and no other. -/
theorem assign_of_not_forbids (allowed : ¬ d.Forbids new) :
    ∃ d', d.assign new = .ok d' ∧ d'.Carries new ∧
      ∀ field, field ≠ new.field → d'.AgreeAt d field := by
  cases new with
  | severity word => exact absurd trivial allowed
  | message text =>
    exact ⟨{ d with message := text }, rfl, rfl, fun _ other => agreeAt_of_ne_message other⟩
  | file name =>
    rw [assign, refuseClearing_of_kept allowed]
    exact ⟨{ d with file := name }, rfl, rfl, fun _ other => agreeAt_of_ne_file other⟩
  | line number =>
    rw [assign, refuseClearing_of_kept allowed]
    exact ⟨{ d with line := number }, rfl, rfl, fun _ other => agreeAt_of_ne_line other⟩
  | column number =>
    rw [assign, refuseClearing_of_kept allowed]
    exact ⟨{ d with column := number }, rfl, rfl, fun _ other => agreeAt_of_ne_column other⟩

/-- A known part of the place that is assigned has a value again. -/
theorem Carries.knows (carried : d'.Carries new) (allowed : ¬ d.Forbids new)
    (about : new.field = .place part) (known : d.Knows part) : d'.Knows part := by
  cases new with
  | severity | message => cases about
  | file name =>
    cases about
    exact fun lost => allowed ⟨known, carried.symm.trans lost⟩
  | line number =>
    cases about
    exact fun lost => allowed ⟨known, carried.symm.trans lost⟩
  | column number =>
    cases about
    exact fun lost => allowed ⟨known, carried.symm.trans lost⟩

theorem attachLine_eq (d : Diagnostic) (line : Option Int) :
    d.attachLine line = (decide (d.line = none),
      { d with line := if d.line = none then line else d.line }) := by
  obtain ⟨severity, message, file, known, column⟩ := d
  cases known <;> rfl

theorem edited_attach (d : Diagnostic) (line : Option Int) :
    Edited d (.attach line) (d.edit (.attach line)).1 (d.edit (.attach line)).2 := by
  rw [edit, attachLine_eq]
  exact
    { severity := rfl
      knows := fun part known => by
        cases part with
        | file => exact known
        | line => exact fun lost => known (by rwa [if_neg known] at lost)
        | column => exact known
      others := fun _ other => agreeAt_of_ne_line other
      attached := fun line' same => by
        cases same
        exact ⟨rfl, rfl⟩
      assigned := nofun
      refused := nofun
      unchanged := nofun }

theorem edited_assign (d : Diagnostic) (new : Assignment) :
    Edited d (.assign new) (d.edit (.assign new)).1 (d.edit (.assign new)).2 := by
  by_cases forbidden : d.Forbids new
  · obtain ⟨why, refused, about⟩ := assign_of_forbids forbidden
    rw [edit, refused]
    exact
      { severity := rfl
        knows := fun _ known => known
        others := fun field _ => .refl d field
        attached := nofun
        assigned := fun new' same allowed => by
          cases same
          exact absurd forbidden allowed
        refused := fun new' same _ => by
          cases same
          exact ⟨why, rfl, about⟩
        unchanged := fun _ _ => rfl }
  · obtain ⟨d', made, carried, others⟩ := assign_of_not_forbids forbidden
    have fixed : new.field ≠ .severity := by
      cases new with
      | severity word => exact absurd trivial forbidden
      | _ => nofun
    rw [edit, made]
    exact
      { severity := others .severity fixed.symm
        knows := fun part known => by
          by_cases about : new.field = .place part
          · exact carried.knows forbidden about known
          · exact (others (.place part) (Ne.symm about)).knows known
        others
        attached := nofun
        assigned := fun new' same _ => by
          cases same
          exact ⟨rfl, carried⟩
        refused := fun new' same forbidden' => by
          cases same
          exact absurd forbidden' forbidden
        unchanged := nofun }

/-- One edit, by its kinds. -/
theorem edited_edit (d : Diagnostic) (e : Edit) : Edited d e (d.edit e).1 (d.edit e).2 := by
  cases e with
  | attach line => exact edited_attach d line
  | assign new => exact edited_assign d new

theorem run_append (d : Diagnostic) (edits more : List Edit) :
    d.run (edits ++ more) = (d.run edits).run more :=
  List.foldl_append

theorem severity_run (d : Diagnostic) (edits : List Edit) : (d.run edits).severity = d.severity := by
  induction edits generalizing d with
  | nil => rfl
  | cons e edits ih => exact (ih (d.edit e).2).trans (edited_edit d e).severity

theorem Knows.run (known : d.Knows part) (edits : List Edit) : (d.run edits).Knows part := by
  induction edits generalizing d with
  | nil => exact known
  | cons e edits ih => exact ih ((edited_edit d e).knows part known)

/-- Whatever is done with a finding, its severity stays, a part of its place that is once known
stays known, and each edit on the way changes at most its own field, the line only where it was
open, and nothing where it is refused. -/
theorem run_keeps_record (d : Diagnostic) (edits : List Edit) :
    (d.run edits).severity = d.severity ∧
      (∀ part more, (d.run edits).Knows part → (d.run (edits ++ more)).Knows part) ∧
      ∀ e, Edited (d.run edits) e ((d.run edits).edit e).1 (d.run (edits ++ [e])) := by
  refine ⟨severity_run d edits, fun part more known => ?_, fun e => ?_⟩
  · rw [run_append]
    exact known.run more
  · rw [run_append]
    exact edited_edit (d.run edits) e

end TexBuild.Diagnostic
