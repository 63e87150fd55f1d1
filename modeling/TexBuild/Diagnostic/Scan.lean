import TexBuild.Diagnostic.Line
import TexBuild.Number.Numeral
import TexBuild.Text.Lines

namespace TexBuild

/-- A numeral with more digits than are read as a number. -/
structure LongNumeral where
  digits : Nat
deriving DecidableEq, Repr

/-- The number that a run of digits denotes. -/
def readNumeral (digits : List Char) : Except LongNumeral Nat :=
  if Numeral.wholeLimit < digits.length then .error ⟨digits.length⟩ else .ok (valueOfDigits digits)

namespace Diagnostic

/-- The number in a reference to a source line. -/
def lineNumber? (line : List Char) : Except LongNumeral (Option Nat) :=
  match LogLine.Rule.verdict? line .reference with
  | some (.place digits) => (readNumeral digits).map some
  | _ => .ok none

/-- Adds the meaning of one line to the findings so far, which are held latest
first. A place belongs to the latest finding, if there is one, and counts only if
that has no place yet. -/
def absorb (found : List Diagnostic) : LogLine → Except LongNumeral (List Diagnostic)
  | .finding severity message => .ok (plain severity (String.ofList message) :: found)
  | .place digits =>
    match found with
    | [] => .ok []
    | last :: earlier => do
      let n ← readNumeral digits
      return (last.attachLine (some (n : Int))).2 :: earlier
  | .empty | .other => .ok found

/-- The findings on the lines of an output, in order. -/
def ofLines (lines : List (List Char)) : Except LongNumeral (List Diagnostic) := do
  let found ← lines.foldlM (fun found line => absorb found (LogLine.classify line)) []
  return found.reverse

/-- The findings in the output of an engine, in the order of their lines. -/
def parse (output : List Char) : Except LongNumeral (List Diagnostic) :=
  ofLines ((Text.lines output).map Text.dropReturns)

end Diagnostic

end TexBuild
