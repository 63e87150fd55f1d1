import Mathlib.Data.List.Chain
import TexBuild.Diagnostic.Scan
import TexBuild.Proofs.Text.Pieces

namespace TexBuild

namespace Text

/-- The text with each line feed written as carriage return and line feed. -/
def withReturns (text : List Char) : List Char :=
  text.flatMap fun c => if c = '\n' then ['\r', '\n'] else [c]

/-- Carriage returns stand at the ends of lines only. -/
def ReturnsEndLines (text : List Char) : Prop :=
  text.IsChain fun c next => c = '\r' → next = '\r' ∨ next = '\n'

instance (text : List Char) : Decidable (ReturnsEndLines text) :=
  inferInstanceAs (Decidable (List.IsChain _ text))

/-- The lines of a text as they are read: without the carriage returns at their ends. -/
def bareLines (text : List Char) : List (List Char) :=
  (lines text).map dropReturns

theorem dropReturns_cons (c : Char) (line : List Char) :
    dropReturns (c :: line) =
      if c = '\r' ∧ dropReturns line = [] then [] else c :: dropReturns line := by
  unfold dropReturns
  rw [List.reverse_cons, List.dropWhile_append]
  by_cases bare : line.reverse.dropWhile (· == '\r') = []
  · by_cases ret : c = '\r' <;> simp [bare, ret]
  · simp [bare]

/-- What one more character does to the lines that are read: a line feed opens a new one, and
a carriage return before nothing is lost. -/
theorem bareLines_cons {c : Char} {text head : List Char} {more : List (List Char)}
    (cut : bareLines text = head :: more) :
    bareLines (c :: text) =
      if c = '\n' then [] :: head :: more
      else (if c = '\r' ∧ head = [] then [] else c :: head) :: more := by
  obtain ⟨line, rest, raw⟩ := List.exists_cons_of_ne_nil (pieces_ne_nil '\n' text)
  rw [bareLines, lines, raw, List.map_cons, List.cons.injEq] at cut
  obtain ⟨rfl, rfl⟩ := cut
  rw [bareLines, lines, pieces_cons raw]
  split
  · rfl
  · rw [List.map_cons, dropReturns_cons]

theorem exists_bareLines (text : List Char) : ∃ head more, bareLines text = head :: more :=
  List.exists_cons_of_ne_nil (mt List.map_eq_nil_iff.mp (pieces_ne_nil '\n' text))

theorem withReturns_cons (c : Char) (text : List Char) :
    withReturns (c :: text) =
      if c = '\n' then '\r' :: '\n' :: withReturns text else c :: withReturns text := by
  rw [withReturns, List.flatMap_cons]
  split <;> rfl

/-- A carriage return before each line feed is lost in reading. -/
theorem bareLines_withReturns (text : List Char) : bareLines (withReturns text) = bareLines text := by
  induction text with
  | nil => rfl
  | cons c text ih =>
    obtain ⟨head, more, cut⟩ := exists_bareLines text
    have alike := ih.trans cut
    rw [withReturns_cons, bareLines_cons cut]
    split
    · rw [bareLines_cons (bareLines_cons alike)]
      rfl
    · rw [bareLines_cons alike, if_neg ‹_›]

/-- In writing line ends as one, the flag says whether a line feed comes next. -/
theorem unifyLineEnds_flag (text : List Char) :
    (text.foldr (fun c (next : List Char × Bool) =>
      if c = '\r' then (if next.2 then next.1 else '\n' :: next.1, false)
      else (c :: next.1, c == '\n')) ([], false)).2 = (text.head? == some '\n') := by
  cases text with
  | nil => rfl
  | cons c text =>
    rw [List.foldr_cons, List.head?_cons]
    split
    · rw [‹c = '\r'›]
      rfl
    · rfl

theorem unifyLineEnds_return (text : List Char) :
    unifyLineEnds ('\r' :: text) =
      if text.head? = some '\n' then unifyLineEnds text else '\n' :: unifyLineEnds text := by
  rw [unifyLineEnds, List.foldr_cons, if_pos rfl, unifyLineEnds_flag]
  simp only [beq_iff_eq]
  rfl

theorem unifyLineEnds_cons {c : Char} (text : List Char) (other : c ≠ '\r') :
    unifyLineEnds (c :: text) = c :: unifyLineEnds text := by
  rw [unifyLineEnds, List.foldr_cons, if_neg other]
  rfl

/-- Behind a carriage return that ends a line, nothing of this line is left. -/
theorem head_bareLines_return {text head : List Char} {more : List (List Char)}
    (ends : ReturnsEndLines ('\r' :: text)) (cut : bareLines text = head :: more) : head = [] := by
  induction text generalizing head more with
  | nil => exact (List.cons.inj cut).1.symm
  | cons c text ih =>
    obtain ⟨line, rest, later⟩ := exists_bareLines text
    obtain ⟨step, ends⟩ := List.isChain_cons_cons.mp ends
    rw [bareLines_cons later] at cut
    obtain rfl | rfl := step rfl
    · rw [if_neg (by decide), if_pos ⟨rfl, ih ends later⟩] at cut
      exact (List.cons.inj cut).1.symm
    · exact (List.cons.inj cut).1.symm

/-- Line ends written as one leave the first line as it is read, and of the others those that
are not empty: a run of carriage returns becomes empty lines behind the line that it ends. -/
theorem bareLines_unifyLineEnds {text head : List Char} {more : List (List Char)}
    (ends : ReturnsEndLines text) (cut : bareLines text = head :: more) :
    ∃ more', bareLines (unifyLineEnds text) = head :: more' ∧
      more'.filter (· ≠ []) = more.filter (· ≠ []) := by
  induction text generalizing head more with
  | nil => exact ⟨more, cut, rfl⟩
  | cons c text ih =>
    obtain ⟨line, rest, later⟩ := exists_bareLines text
    obtain ⟨rest', unified, same⟩ := ih ends.tail later
    rw [bareLines_cons later] at cut
    by_cases ret : c = '\r'
    · subst ret
      obtain rfl := head_bareLines_return ends later
      rw [if_neg (by decide), if_pos ⟨rfl, rfl⟩] at cut
      obtain ⟨rfl, rfl⟩ := List.cons.inj cut
      rw [unifyLineEnds_return]
      split
      · exact ⟨rest', unified, same⟩
      · exact ⟨[] :: rest', by rw [bareLines_cons unified, if_pos rfl], same⟩
    · rw [unifyLineEnds_cons text ret, bareLines_cons unified]
      split at cut
      · obtain ⟨rfl, rfl⟩ := List.cons.inj cut
        rw [if_pos ‹_›]
        refine ⟨_, rfl, ?_⟩
        rw [List.filter_cons, List.filter_cons, same]
      · rw [if_neg ‹_›]
        obtain ⟨rfl, rfl⟩ := List.cons.inj cut
        exact ⟨rest', rfl, same⟩

end Text

namespace Diagnostic
open Text

/-- An empty line neither reports nor places anything, wherever it stands. -/
theorem ofLines_filter (lines : List (List Char)) :
    ofLines (lines.filter (· ≠ [])) = ofLines lines := by
  have fold (found : List Diagnostic) :
      (lines.filter (· ≠ [])).foldlM (fun found line => absorb found (LogLine.classify line)) found =
        lines.foldlM (fun found line => absorb found (LogLine.classify line)) found := by
    induction lines generalizing found with
    | nil => rfl
    | cons line lines ih =>
      by_cases empty : line = []
      · have nothing : absorb found (LogLine.classify []) = .ok found := by
          rw [show LogLine.classify [] = .other by decide +kernel]
          rfl
        subst empty
        rw [List.filter_cons_of_neg (by simp), ih, List.foldlM_cons, nothing]
        rfl
      · rw [List.filter_cons_of_pos (by simpa using empty), List.foldlM_cons, List.foldlM_cons]
        simp only [ih]
  rw [ofLines, ofLines, fold]

/-- Line ends do not matter to the findings: not whether line feeds have carriage returns before
them, and, where carriage returns only end lines, not whether they are written as one first. -/
theorem parse_of_line_ends (text : List Char) :
    parse (withReturns text) = parse text ∧
      (ReturnsEndLines text → parse (unifyLineEnds text) = parse text) := by
  refine ⟨congrArg ofLines (bareLines_withReturns text), fun ends => ?_⟩
  obtain ⟨head, more, cut⟩ := exists_bareLines text
  obtain ⟨more', unified, same⟩ := bareLines_unifyLineEnds ends cut
  change ofLines (bareLines (unifyLineEnds text)) = ofLines (bareLines text)
  rw [← ofLines_filter, ← ofLines_filter (bareLines text), cut, unified, List.filter_cons,
    List.filter_cons, same]

/-- A run of carriage returns between a finding and its place becomes an empty line there. -/
theorem parse_of_returns_in_a_row :
    let text := "! A\r\r\nl.3\r".toList
    ReturnsEndLines text ∧ unifyLineEnds text = "! A\n\nl.3\n".toList ∧
      parse (unifyLineEnds text) = parse text ∧
      parse text = .ok [⟨.error, "A", none, some 3, none⟩] :=
  ⟨by decide +kernel, by decide +kernel, (parse_of_line_ends _).2 (by decide +kernel),
    by decide +kernel⟩

end Diagnostic

end TexBuild
