import TexBuild.Text.Blank
import TexBuild.Text.LetterCase

namespace TexBuild.Text

/-- What follows `pattern` at the very beginning of a text, under the notion
`same` of equal characters. -/
def dropPattern? (same : Char → Char → Bool) : List Char → List Char → Option (List Char)
  | [], cs => some cs
  | _ :: _, [] => none
  | p :: ps, c :: cs => if same p c then dropPattern? same ps cs else none

/-- What follows the leftmost occurrence of `pattern` in a text. -/
def after? (same : Char → Char → Bool) (pattern : List Char) : List Char → Option (List Char)
  | [] => dropPattern? same pattern []
  | c :: cs =>
    match dropPattern? same pattern (c :: cs) with
    | some rest => some rest
    | none => after? same pattern cs

/-- The text holds the pattern, letter by letter. -/
def holds (pattern cs : List Char) : Bool :=
  (after? (· == ·) pattern cs).isSome

/-- What follows a beginning that has to be there letter by letter. -/
def dropStart? (start cs : List Char) : Option (List Char) :=
  dropPattern? (· == ·) start cs

/-- The trimmed rest of a line after the leftmost occurrence of `pattern`, case
ignored; nothing when the line does not hold it. -/
def payload (pattern line : List Char) : List Char :=
  match after? sameLetter pattern line with
  | some rest => trim rest
  | none => []

theorem dropPattern?_eq_some_iff {pattern cs rest : List Char} :
    dropPattern? (· == ·) pattern cs = some rest ↔ cs = pattern ++ rest := by
  induction pattern generalizing cs with
  | nil => simp [dropPattern?]
  | cons p ps ih =>
    cases cs with
    | nil => simp [dropPattern?]
    | cons c cs =>
      by_cases h : p = c
      · subst h; simp [dropPattern?, ih]
      · have h' : c ≠ p := fun e => h e.symm
        simp [dropPattern?, h, h']

end TexBuild.Text
