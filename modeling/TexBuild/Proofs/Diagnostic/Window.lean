import Mathlib.Data.List.DropRight
import TexBuild.Diagnostic.Scan
import TexBuild.Proofs.Text.Occurrence

namespace TexBuild

namespace LogLine

/-- The meaning of a line by the first of five conditions that it meets: it begins with the
sentinel, it holds one of the two tokens in any case, it holds the label of the engine, it
begins with the mark of a reference. -/
def meaning (line : List Char) : LogLine :=
  if sentinel <+: line then .finding .error (dropAnnouncement (line.drop sentinel.length))
  else if errorToken <:+: Text.lowered line then findingOf .error (Text.payload errorToken line)
  else if warningToken <:+: Text.lowered line then
    findingOf .warning (Text.payload warningToken line)
  else if engineLabel <:+: line then findingOf .warning (Text.payload engineLabel line)
  else if referenceMark <+: line then
    match (line.drop referenceMark.length).takeWhile Char.isDigit with
    | [] => .other
    | digits => .place digits
  else .other

theorem classify_eq_meaning (line : List Char) : classify line = meaning line := by
  unfold classify classifyBy Rule.all meaning
  simp only [List.findSome?_cons, List.findSome?_nil, Rule.verdict?, Text.dropStart?_eq,
    Text.holds_iff_infix]
  by_cases isSentinel : sentinel <+: line
  · simp only [isSentinel, if_true, Option.map_some, Option.getD_some]
  by_cases isError : errorToken <:+: Text.lowered line
  · simp only [isSentinel, isError, if_true, if_false, Option.map_none, Option.getD_some]
  by_cases isWarning : warningToken <:+: Text.lowered line
  · simp only [isSentinel, isError, isWarning, if_true, if_false, Option.map_none, Option.getD_some]
  by_cases isLabel : engineLabel <:+: line
  · simp only [isSentinel, isError, isWarning, isLabel, if_true, if_false, Option.map_none,
      Option.getD_some]
  by_cases isReference : referenceMark <+: line
  · cases digits : (line.drop referenceMark.length).takeWhile Char.isDigit <;>
      simp only [isSentinel, isError, isWarning, isLabel, isReference, digits, if_true, if_false,
        Option.map_none, Option.map_some, Option.getD_some]
  · simp only [isSentinel, isError, isWarning, isLabel, isReference, if_false, Option.map_none,
      Option.getD_none]

theorem meaning_eq_place {line digits : List Char} (h : meaning line = .place digits) :
    ∃ rest, line = referenceMark ++ rest ∧ digits = rest.takeWhile Char.isDigit := by
  have notFinding (severity : Severity) (message : List Char) :
      findingOf severity message ≠ .place digits := by
    unfold findingOf
    split <;> simp
  unfold meaning at h
  split at h
  · cases h
  split at h
  · exact absurd h (notFinding _ _)
  split at h
  · exact absurd h (notFinding _ _)
  split at h
  · exact absurd h (notFinding _ _)
  split at h
  · next begins =>
    obtain ⟨rest, rfl⟩ := begins
    rw [List.drop_left] at h
    split at h
    · cases h
    · cases h
      exact ⟨rest, rfl, rfl⟩
  · cases h

def isFinding : LogLine → Bool
  | .finding .. => true
  | _ => false

/-- The number of the source line that a line of output refers to. -/
def number? : LogLine → Option Int
  | .place digits => some (valueOfDigits digits)
  | _ => none

/-- The lines up to the next finding, empty ones not counted as such. -/
def window (lines : List LogLine) : List LogLine :=
  lines.takeWhile fun l => !l.isFinding

/-- The first number in the window of a finding, of which `rest` are the lines after it. -/
def windowNumber? (rest : List LogLine) : Option Int :=
  (window rest).findSome? number?

@[simp] theorem windowNumber?_nil : windowNumber? [] = none := rfl

@[simp] theorem windowNumber?_finding (severity : Severity) (message : List Char)
    (rest : List LogLine) : windowNumber? (.finding severity message :: rest) = none := rfl

@[simp] theorem windowNumber?_place (digits : List Char) (rest : List LogLine) :
    windowNumber? (.place digits :: rest) = some (valueOfDigits digits : Int) := rfl

@[simp] theorem windowNumber?_empty (rest : List LogLine) :
    windowNumber? (.empty :: rest) = windowNumber? rest := rfl

@[simp] theorem windowNumber?_other (rest : List LogLine) :
    windowNumber? (.other :: rest) = windowNumber? rest := rfl

/-- A line whose numeral is too long to be read. -/
def longNumeral? : LogLine → Option LongNumeral
  | .place digits => if Numeral.wholeLimit < digits.length then some ⟨digits.length⟩ else none
  | _ => none

end LogLine

namespace Diagnostic
open LogLine

/-- The findings that lines declare: one for each line with a finding, in their order, at the
first number in the window after it. -/
def declared (lines : List LogLine) : List Diagnostic :=
  lines.tails.filterMap fun
    | .finding severity message :: rest =>
      some ⟨severity, String.ofList message, none, windowNumber? rest, none⟩
    | _ => none

@[simp] theorem declared_nil : declared [] = [] := rfl

theorem declared_finding (severity : Severity) (message : List Char) (rest : List LogLine) :
    declared (.finding severity message :: rest) =
      ⟨severity, String.ofList message, none, windowNumber? rest, none⟩ :: declared rest := by
  simp [declared]

theorem declared_other {line : LogLine} (h : line.isFinding = false) (rest : List LogLine) :
    declared (line :: rest) = declared rest := by
  cases line with
  | finding => cases h
  | _ => simp [declared]

/-- A finding once the lines after it are known. -/
def closed (last : Diagnostic) (rest : List LogLine) : Diagnostic :=
  { last with line := last.line.or (windowNumber? rest) }

theorem closed_plain (severity : Severity) (message : List Char) (rest : List LogLine) :
    closed (plain severity (String.ofList message)) rest =
      ⟨severity, String.ofList message, none, windowNumber? rest, none⟩ := rfl

theorem closed_attachLine (last : Diagnostic) (digits : List Char) (rest : List LogLine) :
    closed (last.attachLine (some (valueOfDigits digits : Int))).2 rest =
      closed last (.place digits :: rest) := by
  cases found : last.line with
  | some n => simp [closed, attachLine, found]
  | none => simp [closed, attachLine, found]

/-- Once there is a finding, the lines after it close its window and declare the others; only a
numeral that is too long stops them. -/
theorem foldlM_absorb_cons (last : Diagnostic) (earlier : List Diagnostic) (rest : List LogLine) :
    rest.foldlM absorb (last :: earlier) =
      match rest.findSome? longNumeral? with
      | some e => .error e
      | none => .ok ((declared rest).reverse ++ closed last rest :: earlier) := by
  induction rest generalizing last earlier with
  | nil => simp [closed, pure, Except.pure]
  | cons line rest ih =>
    rw [List.foldlM_cons, List.findSome?_cons]
    cases line with
    | finding severity message =>
      change rest.foldlM absorb (plain severity (String.ofList message) :: last :: earlier) = _
      rw [ih, declared_finding, closed_plain]
      simp only [longNumeral?, List.reverse_cons, List.append_assoc, List.singleton_append, closed,
        windowNumber?_finding, Option.or_none]
    | empty =>
      change rest.foldlM absorb (last :: earlier) = _
      rw [ih, declared_other rfl]
      rfl
    | other =>
      change rest.foldlM absorb (last :: earlier) = _
      rw [ih, declared_other rfl]
      rfl
    | place digits =>
      by_cases long : Numeral.wholeLimit < digits.length
      · simp only [absorb, readNumeral, longNumeral?, long, if_true]
        rfl
      · simp only [absorb, readNumeral, longNumeral?, long, if_false]
        change rest.foldlM absorb
          ((last.attachLine (some (valueOfDigits digits : Int))).2 :: earlier) = _
        rw [ih, declared_other rfl, closed_attachLine]

/-- Before the first finding nothing is read. -/
theorem foldlM_absorb_nil (lines : List LogLine) :
    lines.foldlM absorb [] =
      match (lines.dropWhile fun l => !l.isFinding).findSome? longNumeral? with
      | some e => .error e
      | none => .ok (declared lines).reverse := by
  induction lines with
  | nil => rfl
  | cons line rest ih =>
    rw [List.foldlM_cons]
    cases line with
    | finding severity message =>
      change rest.foldlM absorb [plain severity (String.ofList message)] = _
      rw [foldlM_absorb_cons, declared_finding, closed_plain, List.reverse_cons]
      rfl
    | _ =>
      rw [declared_other rfl]
      exact ih

/-- The meanings of the lines of an output. -/
def meanings (output : List Char) : List LogLine :=
  (Text.lines output).map fun line => meaning (Text.dropReturns line)

/-- The first numeral after a finding that is too long to be read. -/
def longReference? (output : List Char) : Option LongNumeral :=
  ((meanings output).dropWhile fun l => !l.isFinding).findSome? longNumeral?

/-- An output is read as what its lines declare, unless a reference after a finding has too
long a numeral. -/
theorem parse_eq (output : List Char) :
    parse output =
      match longReference? output with
      | some e => .error e
      | none => .ok (declared (meanings output)) := by
  have fold : ((Text.lines output).map Text.dropReturns).foldlM
      (fun found line => absorb found (classify line)) [] =
        (meanings output).foldlM absorb [] := by
    simp only [meanings, List.foldlM_map, classify_eq_meaning]
  unfold parse ofLines
  rw [fold, foldlM_absorb_nil, longReference?]
  cases ((meanings output).dropWhile fun l => !l.isFinding).findSome? longNumeral? with
  | some e => rfl
  | none => exact congrArg Except.ok (List.reverse_reverse _)

theorem length_takeWhile_le {p : Char → Bool} {cs ds : List Char} (h : cs <+: ds) :
    (cs.takeWhile p).length ≤ (ds.takeWhile p).length := by
  obtain ⟨rest, rfl⟩ := h
  rw [List.takeWhile_append]
  split
  · next whole => rw [whole, List.length_append]; omega
  · exact Nat.le_refl _

theorem longReference?_eq_none {output : List Char}
    (short : ∀ line ∈ Text.lines output, referenceMark <+: line →
      ((line.drop referenceMark.length).takeWhile Char.isDigit).length ≤ Numeral.wholeLimit) :
    longReference? output = none := by
  have readable : ∀ l ∈ meanings output, longNumeral? l = none := by
    intro l member
    obtain ⟨line, inText, rfl⟩ := List.mem_map.mp member
    cases found : meaning (Text.dropReturns line) with
    | place digits =>
      obtain ⟨rest, cut, rfl⟩ := meaning_eq_place found
      have begins : referenceMark ++ rest <+: line := cut ▸ List.rdropWhile_prefix _ _
      obtain ⟨returns, rfl⟩ := begins
      have bound := short _ inText (List.append_assoc .. ▸ List.prefix_append _ _)
      rw [List.append_assoc, List.drop_left] at bound
      have shorter := length_takeWhile_le (p := Char.isDigit) (List.prefix_append rest returns)
      exact if_neg (by omega)
    | _ => rfl
  refine List.findSome?_eq_none_iff.mpr fun l member => readable l ?_
  exact (List.dropWhile_sublist _).subset member

/-- What an output is read as: one finding for each line that declares one with a message, in
their order, each at the number of the first reference after its line and before the line of
the next. -/
theorem parse_eq_declared (output : List Char)
    (short : ∀ line ∈ Text.lines output, referenceMark <+: line →
      ((line.drop referenceMark.length).takeWhile Char.isDigit).length ≤ 4300) :
    parse output =
      .ok (declared ((Text.lines output).map fun line => meaning (Text.dropReturns line))) := by
  rw [parse_eq, longReference?_eq_none short]
  rfl

/-- A reference before any finding, one behind an empty finding and a mark without digits, a
second one, and a finding that has none. -/
theorem parse_eq_declared_seams :
    (∀ line ∈ Text.lines "l.3\n! A\nwarning: \nl.\nl.7 x\r\nl.8\nError: b".toList,
      referenceMark <+: line →
        ((line.drop referenceMark.length).takeWhile Char.isDigit).length ≤ 4300) ∧
      parse "l.3\n! A\nwarning: \nl.\nl.7 x\r\nl.8\nError: b".toList =
        .ok [⟨.error, "A", none, some 7, none⟩, ⟨.error, "b", none, none, none⟩] := by
  refine ⟨by decide, ?_⟩
  rw [parse_eq_declared _ (by decide)]
  rfl

end Diagnostic

end TexBuild
