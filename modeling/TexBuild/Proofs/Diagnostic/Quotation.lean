import Mathlib.Data.List.DropRight
import TexBuild.Proofs.Diagnostic.Announcement

namespace TexBuild

namespace Text

variable {cs pattern rest : List Char} {same : Char → Char → Bool}

/-- A text does not begin or end with a blank. -/
def IsTrim (cs : List Char) : Prop :=
  (∀ c ∈ cs.head?, isBlank c = false) ∧ ∀ c ∈ cs.getLast?, isBlank c = false

/-- Trimming leaves what stands at the end, but for blanks behind it. -/
theorem exists_blanks_trim (cs : List Char) :
    ∃ blanks, (∀ c ∈ blanks, isBlank c = true) ∧ trim cs ++ blanks <:+ cs := by
  refine ⟨(trimStart cs).rtakeWhile isBlank, fun c => List.mem_rtakeWhile_imp, ?_⟩
  have whole : trim cs ++ (trimStart cs).rtakeWhile isBlank = trimStart cs :=
    List.rdropWhile_append_rtakeWhile
  rw [whole]
  exact List.dropWhile_suffix isBlank

theorem isTrim_trim (cs : List Char) : IsTrim (trim cs) := by
  constructor
  · intro c first
    obtain ⟨rest, whole⟩ : trim cs <+: trimStart cs := List.rdropWhile_prefix _ _
    obtain ⟨tail, cut⟩ := List.head?_eq_some_iff.mp first
    rw [cut] at whole
    refine LogLine.stops_dropWhile isBlank cs c ?_
    change c ∈ (trimStart cs).head?
    rw [← whole]
    rfl
  · intro c last
    rw [trim, trimEnd, List.getLast?_reverse] at last
    exact LogLine.stops_dropWhile isBlank _ c last

theorem after?_suffix (found : after? same pattern cs = some rest) : rest <:+ cs := by
  obtain ⟨k, -, rfl⟩ := after?_eq_some_iff.mp found
  exact List.drop_suffix _ _

/-- What is taken for a message from a line is trimmed and stands in it. -/
theorem payload_quotes (pattern line : List Char) :
    IsTrim (payload pattern line) ∧
      ∃ blanks, (∀ c ∈ blanks, isBlank c = true) ∧ payload pattern line ++ blanks <:+ line := by
  unfold payload
  cases found : after? sameLetter pattern line with
  | none => exact ⟨⟨nofun, nofun⟩, [], nofun, List.nil_suffix⟩
  | some rest =>
    obtain ⟨blanks, blank, ends⟩ := exists_blanks_trim rest
    exact ⟨isTrim_trim rest, blanks, blank, ends.trans (after?_suffix found)⟩

end Text

namespace LogLine

variable {line message : List Char} {severity : Severity}

theorem Tells.suffix {text : List Char} (tells : Tells text message) : message <:+ text := by
  cases tells with
  | announced a => exact ⟨a.announcer.text ++ (a.gap.chars ++ (announcedError ++ a.lead)), by
      simp only [Announcement.text, List.append_assoc]⟩
  | plain => exact List.suffix_rfl

/-- What the finding of a line says: behind the sentinel the message goes on to the end of the line;
elsewhere it is not empty, it is trimmed, and at most blanks follow it. -/
structure Says (line : List Char) (severity : Severity) (message : List Char) : Prop where
  grave : severity = .error ∨ severity = .warning
  announced : sentinel <+: line → message <:+ line
  trimmed : ¬ sentinel <+: line → message ≠ [] ∧ Text.IsTrim message ∧
    ∃ blanks, (∀ c ∈ blanks, isBlank c = true) ∧ message ++ blanks <:+ line

theorem says_of_payload {pattern : List Char} {found : Severity} (unannounced : ¬ sentinel <+: line)
    (grave : found = .error ∨ found = .warning)
    (told : findingOf found (Text.payload pattern line) = .finding severity message) :
    Says line severity message := by
  unfold findingOf at told
  split at told
  · cases told
  · next some =>
    cases told
    exact ⟨grave, fun announced => absurd announced unannounced, fun _ =>
      ⟨some, Text.payload_quotes pattern line⟩⟩

/-- Each rule takes the message of a line from the line. -/
theorem says_of_classify (told : classify line = .finding severity message) :
    Says line severity message := by
  rw [classify_eq_meaning] at told
  unfold meaning at told
  by_cases announced : sentinel <+: line
  · rw [if_pos announced] at told
    cases told
    exact ⟨.inl rfl, fun _ => (tells_dropAnnouncement _).suffix.trans (List.drop_suffix _ _),
      fun unannounced => absurd announced unannounced⟩
  rw [if_neg announced] at told
  split at told
  · exact says_of_payload announced (.inl rfl) told
  split at told
  · exact says_of_payload announced (.inr rfl) told
  split at told
  · exact says_of_payload announced (.inr rfl) told
  split at told
  · split at told <;> cases told
  · cases told

theorem sentinel_prefix_dropReturns : sentinel <+: Text.dropReturns line ↔ sentinel <+: line := by
  constructor
  · exact fun announced => announced.trans (List.rdropWhile_prefix _ _)
  · rintro ⟨m, rfl⟩
    rw [dropReturns_sentinel]
    exact List.prefix_append _ _

end LogLine

namespace Diagnostic
open LogLine

/-- A finding quotes a line: its message is a piece of the line as it stands there, up to the end of
the line behind the sentinel, and elsewhere a trimmed piece that only blanks follow. Carriage returns
at the end do not belong to the line. -/
structure Quotes (line : List Char) (d : Diagnostic) : Prop where
  piece : d.message.toList <:+: line
  unbroken : '\n' ∉ d.message.toList
  grave : d.severity = .error ∨ d.severity = .warning
  announced : sentinel <+: line → d.message.toList <:+ Text.dropReturns line
  trimmed : ¬ sentinel <+: line → d.message ≠ "" ∧ Text.IsTrim d.message.toList ∧
    ∃ blanks, (∀ c ∈ blanks, isBlank c = true) ∧ d.message.toList ++ blanks <:+ Text.dropReturns line

theorem Reports.quotes {line : List Char} {d : Diagnostic} (reports : Reports line d)
    (whole : '\n' ∉ line) : Quotes line d := by
  obtain ⟨grave, announced, trimmed⟩ := says_of_classify reports
  rw [sentinel_prefix_dropReturns] at announced trimmed
  have piece : d.message.toList <:+: line := by
    refine List.IsInfix.trans ?_ (List.rdropWhile_prefix _ _ : Text.dropReturns line <+: line).isInfix
    by_cases begins : sentinel <+: line
    · exact (announced begins).isInfix
    · obtain ⟨-, -, blanks, -, ends⟩ := trimmed begins
      exact (List.prefix_append _ blanks).isInfix.trans ends.isInfix
  refine ⟨piece, fun broken => whole (piece.subset broken), grave, announced, fun unannounced => ?_⟩
  obtain ⟨some, rest⟩ := trimmed unannounced
  exact ⟨fun empty => some (by rw [empty]; rfl), rest⟩

/-- Each finding in an output quotes the line that it is about, and each line with a finding is
quoted by one. -/
theorem messages_quote_lines {output : List Char} {ds : List Diagnostic}
    (parsed : parse output = .ok ds) :
    List.Forall₂ Quotes ((Text.lines output).filter reports) ds := by
  have whole : ∀ line ∈ (Text.lines output).filter reports, '\n' ∉ line :=
    fun line member => Text.mark_not_mem_piece (List.mem_of_mem_filter member)
  exact ((List.forall₂_and_left _ _).mpr ⟨whole, reports_parse parsed⟩).imp
    fun line d ⟨whole, told⟩ => Reports.quotes told whole

/-- A message with blanks at its ends behind the sentinel, and one without behind a token. -/
theorem messages_quote_lines_trimmed :
    let output := "! A \r\nl.3\nx Error:  b\u3000\r".toList
    let ds : List Diagnostic := [⟨.error, "A ", none, some 3, none⟩, ⟨.error, "b", none, none, none⟩]
    parse output = .ok ds ∧
      List.Forall₂ Quotes ["! A \r".toList, "x Error:  b\u3000\r".toList] ds := by
  intro output ds
  have parsed : parse output = .ok ds := by decide +kernel
  have told : (Text.lines output).filter reports = ["! A \r".toList, "x Error:  b\u3000\r".toList] := by
    decide +kernel
  exact ⟨parsed, told ▸ messages_quote_lines parsed⟩

end Diagnostic

end TexBuild
