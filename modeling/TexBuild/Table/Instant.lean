import TexBuild.Fault
import TexBuild.Number.Calendar
import TexBuild.Table.Tag
import TexBuild.Text.Digit

-- After the constructor of timestamps in PyYAML's safe loader.

namespace TexBuild.Table.Instant

open Regular

/-- A digit. -/
def digit : Regular := one Char.isDigit

/-- One digit or two. -/
def oneOrTwo : Regular := row [digit, optional digit]

/-- Two digits. -/
def two : Regular := row [digit, digit]

/-- Blanks. -/
def gaps : Regular := many (oneOf [' ', '\t'])

/-- The time of day behind a date, with what it is ahead of the mean time. -/
def clock : Regular :=
  row [either (oneOf ['T', 't']) (repeated (oneOf [' ', '\t'])), oneOrTwo, char ':', two, char ':', two,
    optional (row [char '.', many digit]),
    optional (row [gaps, either (char 'Z')
      (row [oneOf ['-', '+'], oneOrTwo, optional (row [char ':', two])])])]

/-- Words for a day or a moment of it. -/
def shape : Regular :=
  row [two, two, char '-', oneOrTwo, char '-', oneOrTwo, optional clock]

/-- The numbers in a word, in their order. -/
def numbers (cs : List Char) : List Nat :=
  ((Text.pieces ' ' (cs.map fun c => if c.isDigit then c else ' ')).filter fun p => !p.isEmpty).map
    valueOfDigits

/-- The first part that is out of its range. -/
def misfit? (ns : List Nat) : Option InstantPart :=
  match ns with
  | year :: month :: day :: time =>
    if year = 0 then some .year
    else if month = 0 ∨ 12 < month then some .month
    else if day = 0 ∨ Calendar.daysIn year month < day then some .day
    else
      match time with
      | hour :: minute :: second :: _ =>
        if 23 < hour then some .hour
        else if 59 < minute then some .minute
        else if 59 < second then some .second
        else none
      | _ => none
  | _ => none

/-- The kind of what a word for a day or a moment denotes. -/
def kind (text : String) : Except TableError String :=
  let cs := text.toList
  if !shape.accepts cs then .error .noInstant
  else
    let ns := numbers cs
    match misfit? ns with
    | some part => .error (.outside part)
    | none => .ok (if ns.length ≤ 3 then "date" else "datetime")

end TexBuild.Table.Instant
