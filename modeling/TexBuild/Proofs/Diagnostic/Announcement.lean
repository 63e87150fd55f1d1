import Mathlib.Data.List.Forall2
import TexBuild.Proofs.Diagnostic.LineEnds
import TexBuild.Proofs.Diagnostic.Window

namespace TexBuild

namespace LogLine

/-- A text of at least one character, all of which are of one class. -/
@[ext]
structure Run (p : Char → Bool) where
  chars : List Char
  ne_nil : chars ≠ []
  inside : ∀ c ∈ chars, p c = true

/-- A run of a class does not go on into a text. -/
def Stops (p : Char → Bool) (rest : List Char) : Prop :=
  ∀ c ∈ rest.head?, p c = false

instance (p : Char → Bool) (rest : List Char) : Decidable (Stops p rest) :=
  inferInstanceAs (Decidable (∀ c ∈ rest.head?, p c = false))

/-- The blanks between two words. -/
abbrev Gap := Run isBlank

/-- A word, whatever its characters mean elsewhere. -/
abbrev Word := Run fun c => !isBlank c

/-- What extends the format. -/
inductive Extension where
  | package
  | documentClass

/-- The word for a kind of extension. -/
def Extension.word : Extension → List Char
  | .package => "Package".toList
  | .documentClass => "Class".toList

/-- Who announces an error: the format itself, or an extension by its own name. -/
inductive Announcer where
  | format
  | extension (kind : Extension) (gap : Gap) (name : Word)

/-- The words for who announces an error. -/
def Announcer.text : Announcer → List Char
  | .format => "LaTeX".toList
  | .extension kind gap name => kind.word ++ (gap.chars ++ name.chars)

/-- The word for an error in an announcement. -/
def announcedError : List Char := "Error:".toList

/-- A text that announces an error: by whom, blanks, the word for an error, perhaps more blanks,
and the message, which goes on to the end. -/
structure Announcement where
  announcer : Announcer
  gap : Gap
  lead : List Char
  message : List Char
  lead_blank : ∀ c ∈ lead, isBlank c = true
  message_visible : Stops isBlank message

/-- The whole text of an announcement. -/
def Announcement.text (a : Announcement) : List Char :=
  a.announcer.text ++ (a.gap.chars ++ (announcedError ++ (a.lead ++ a.message)))

/-- What is reported of a text that follows the sentinel: the message of the announcement that it
is, or all of it. -/
inductive Tells : List Char → List Char → Prop
  | announced (a : Announcement) : Tells a.text a.message
  | plain {text} (unannounced : ∀ a : Announcement, a.text ≠ text) : Tells text text

section Runs

variable {p : Char → Bool} {run run' rest rest' cs : List Char}

theorem takeWhile_run (inside : ∀ c ∈ run, p c = true) (stops : Stops p rest) :
    (run ++ rest).takeWhile p = run := by
  have stop : rest.takeWhile p = [] := by
    cases rest with
    | nil => rfl
    | cons c rest => exact List.takeWhile_cons_of_neg (by simp [stops c rfl])
  rw [List.takeWhile_append_of_pos inside, stop, List.append_nil]

theorem dropWhile_run (inside : ∀ c ∈ run, p c = true) (stops : Stops p rest) :
    (run ++ rest).dropWhile p = rest := by
  rw [List.dropWhile_append_of_pos inside]
  cases rest with
  | nil => rfl
  | cons c rest => exact List.dropWhile_cons_of_neg (by simp [stops c rfl])

theorem stops_dropWhile (p : Char → Bool) (cs : List Char) : Stops p (cs.dropWhile p) := by
  intro c first
  have refused := List.head?_dropWhile_not p cs
  rw [Option.mem_def.mp first] at refused
  simpa using refused

/-- A text is cut in one way into a run and a rest into which it does not go on. -/
theorem run_inj (inside : ∀ c ∈ run, p c = true) (stops : Stops p rest)
    (inside' : ∀ c ∈ run', p c = true) (stops' : Stops p rest')
    (same : run ++ rest = run' ++ rest') : run = run' ∧ rest = rest' := by
  have runs := congrArg (List.takeWhile p) same
  have rests := congrArg (List.dropWhile p) same
  rw [takeWhile_run inside stops, takeWhile_run inside' stops'] at runs
  rw [dropWhile_run inside stops, dropWhile_run inside' stops'] at rests
  exact ⟨runs, rests⟩

theorem Run.stops_append (run : Run p) (rest : List Char) :
    Stops (fun c => !p c) (run.chars ++ rest) := by
  obtain ⟨chars, some, inside⟩ := run
  obtain ⟨c, chars, rfl⟩ := List.exists_cons_of_ne_nil some
  intro d first
  cases first
  simp [inside c (.head _)]

/-- What is left when a run is dropped that has to be there. -/
theorem dropRun_eq_some_iff :
    (if cs.takeWhile p = [] then none else some (cs.dropWhile p)) = some rest ↔
      ∃ run : Run p, cs = run.chars ++ rest ∧ Stops p rest := by
  constructor
  · intro dropped
    split at dropped
    · cases dropped
    · next some =>
      cases dropped
      exact ⟨⟨cs.takeWhile p, some, fun c => List.mem_takeWhile_imp⟩,
        List.takeWhile_append_dropWhile.symm, stops_dropWhile p cs⟩
  · rintro ⟨⟨run, some, inside⟩, rfl, stops⟩
    rw [takeWhile_run inside stops, dropWhile_run inside stops, if_neg some]

end Runs

variable {cs rest message m : List Char}

theorem dropBlanks?_eq_some_iff :
    dropBlanks? cs = some rest ↔ ∃ gap : Gap, cs = gap.chars ++ rest ∧ Stops isBlank rest :=
  dropRun_eq_some_iff

theorem dropWord?_eq_some_iff :
    dropWord? cs = some rest ↔ ∃ name : Word, cs = name.chars ++ rest ∧ Stops (fun c => !isBlank c) rest :=
  dropRun_eq_some_iff

theorem Announcer.text_format : Announcer.text .format = "LaTeX".toList := rfl

theorem Announcer.text_extension (kind : Extension) (gap : Gap) (name : Word) :
    Announcer.text (.extension kind gap name) = kind.word ++ (gap.chars ++ name.chars) := rfl

/-- Who announces an error is told by the first character. -/
theorem announcer_words :
    "LaTeX".toList = 'L' :: "aTeX".toList ∧ Extension.package.word = 'P' :: "ackage".toList ∧
      Extension.documentClass.word = 'C' :: "lass".toList := by
  decide

theorem dropStart?_format (kind : Extension) (rest : List Char) :
    Text.dropStart? "LaTeX".toList (kind.word ++ rest) = none := by
  obtain ⟨format, package, documentClass⟩ := announcer_words
  cases kind with
  | package => rw [format, package]; exact Text.dropStart?_cons_of_ne (by decide) _ _
  | documentClass => rw [format, documentClass]; exact Text.dropStart?_cons_of_ne (by decide) _ _

theorem dropStart?_extension (kind : Extension) (rest : List Char) :
    (Text.dropStart? "Package".toList (kind.word ++ rest)).or
      (Text.dropStart? "Class".toList (kind.word ++ rest)) = some rest := by
  obtain ⟨-, package, documentClass⟩ := announcer_words
  cases kind with
  | package =>
    have found : Text.dropStart? "Package".toList (Extension.package.word ++ rest) = some rest :=
      Text.dropStart?_append _ _
    rw [found, Option.some_or]
  | documentClass =>
    have other : Text.dropStart? "Package".toList (Extension.documentClass.word ++ rest) = none := by
      change Text.dropStart? Extension.package.word _ = none
      rw [package, documentClass]
      exact Text.dropStart?_cons_of_ne (by decide) _ _
    have found : Text.dropStart? "Class".toList (Extension.documentClass.word ++ rest) = some rest :=
      Text.dropStart?_append _ _
    rw [other, found, Option.none_or]

theorem dropAnnouncer?_text (a : Announcer) (stops : Stops (fun c => !isBlank c) rest) :
    dropAnnouncer? (a.text ++ rest) = some rest := by
  unfold dropAnnouncer?
  cases a with
  | format => rw [Announcer.text_format, Text.dropStart?_append]
  | extension kind gap name =>
    rw [Announcer.text_extension, List.append_assoc, List.append_assoc, dropStart?_format,
      dropStart?_extension]
    have spaced : dropBlanks? (gap.chars ++ (name.chars ++ rest)) = some (name.chars ++ rest) :=
      dropBlanks?_eq_some_iff.mpr ⟨gap, rfl, by simpa using name.stops_append rest⟩
    have named : dropWord? (name.chars ++ rest) = some rest :=
      dropWord?_eq_some_iff.mpr ⟨name, rfl, stops⟩
    simp only [spaced, Option.bind_some, named]

theorem exists_announcer (found : dropAnnouncer? cs = some rest) :
    ∃ a : Announcer, cs = a.text ++ rest := by
  unfold dropAnnouncer? at found
  split at found
  · next rest' format =>
    cases found
    exact ⟨.format, Text.dropStart?_eq_some_iff.mp format⟩
  · split at found
    · next after started =>
      obtain ⟨rest', spaced, named⟩ := Option.bind_eq_some_iff.mp found
      obtain ⟨gap, rfl, -⟩ := dropBlanks?_eq_some_iff.mp spaced
      obtain ⟨name, rfl, -⟩ := dropWord?_eq_some_iff.mp named
      obtain package | ⟨-, documentClass⟩ := Option.or_eq_some_iff.mp started
      · refine ⟨.extension .package gap name, ?_⟩
        rw [Text.dropStart?_eq_some_iff.mp package, Announcer.text_extension, List.append_assoc,
          List.append_assoc]
        rfl
      · refine ⟨.extension .documentClass gap name, ?_⟩
        rw [Text.dropStart?_eq_some_iff.mp documentClass, Announcer.text_extension,
          List.append_assoc, List.append_assoc]
        rfl
    · cases found

theorem stops_announcedError (rest : List Char) : Stops isBlank (announcedError ++ rest) := by
  intro c first
  cases first
  decide

/-- What follows the word for an error, if a text announces one. -/
def afterError? (m : List Char) : Option (List Char) :=
  ((dropAnnouncer? m).bind dropBlanks?).bind (Text.dropStart? announcedError)

theorem dropAnnouncement_eq (m : List Char) :
    dropAnnouncement m = (afterError? m).elim m Text.trimStart := by
  have parts : ((dropAnnouncer? m).bind dropBlanks?).bind (Text.dropStart? "Error:".toList) =
      afterError? m := rfl
  unfold dropAnnouncement
  rw [parts]
  cases afterError? m <;> rfl

theorem afterError?_text (a : Announcement) : afterError? a.text = some (a.lead ++ a.message) := by
  have begun : dropAnnouncer? a.text = some (a.gap.chars ++ (announcedError ++ (a.lead ++ a.message))) :=
    dropAnnouncer?_text a.announcer (a.gap.stops_append _)
  have spaced : dropBlanks? (a.gap.chars ++ (announcedError ++ (a.lead ++ a.message))) =
      some (announcedError ++ (a.lead ++ a.message)) := by
    exact dropBlanks?_eq_some_iff.mpr ⟨a.gap, rfl, stops_announcedError _⟩
  rw [afterError?, begun, Option.bind_some, spaced, Option.bind_some, Text.dropStart?_append]

theorem exists_announcement (found : afterError? m = some rest) :
    ∃ a : Announcement, m = a.text := by
  obtain ⟨called, found, ended⟩ := Option.bind_eq_some_iff.mp found
  obtain ⟨named, begun, spaced⟩ := Option.bind_eq_some_iff.mp found
  obtain ⟨announcer, rfl⟩ := exists_announcer begun
  obtain ⟨gap, rfl, -⟩ := dropBlanks?_eq_some_iff.mp spaced
  obtain rfl := Text.dropStart?_eq_some_iff.mp ended
  refine ⟨⟨announcer, gap, rest.takeWhile isBlank, rest.dropWhile isBlank,
    fun c => List.mem_takeWhile_imp, stops_dropWhile isBlank rest⟩, ?_⟩
  rw [Announcement.text, List.takeWhile_append_dropWhile]

/-- The message of an announcement is what is left when the announcement is dropped. -/
theorem dropAnnouncement_text (a : Announcement) : dropAnnouncement a.text = a.message := by
  rw [dropAnnouncement_eq, afterError?_text]
  exact dropWhile_run a.lead_blank a.message_visible

theorem tells_dropAnnouncement (m : List Char) : Tells m (dropAnnouncement m) := by
  cases found : afterError? m with
  | none =>
    rw [dropAnnouncement_eq, found]
    refine .plain fun a same => ?_
    rw [← same, afterError?_text] at found
    cases found
  | some rest =>
    obtain ⟨a, rfl⟩ := exists_announcement found
    rw [dropAnnouncement_text]
    exact .announced a

theorem Tells.message_eq (tells : Tells m message) : message = dropAnnouncement m := by
  cases tells with
  | announced a => exact (dropAnnouncement_text a).symm
  | plain unannounced =>
    rw [dropAnnouncement_eq]
    cases found : afterError? message with
    | none => rfl
    | some rest =>
      obtain ⟨a, same⟩ := exists_announcement found
      exact absurd same.symm (unannounced a)

theorem Announcer.text_format_ne (kind : Extension) (gap : Gap) (name : Word) :
    Announcer.text .format ≠ Announcer.text (.extension kind gap name) := by
  intro same
  have apart := dropStart?_format kind (gap.chars ++ name.chars)
  have begins := Text.dropStart?_append "LaTeX".toList []
  rw [← text_extension, ← same, text_format] at apart
  rw [List.append_nil, apart] at begins
  cases begins

theorem Announcer.text_injective : Function.Injective Announcer.text := by
  intro a b same
  cases a with
  | format =>
    cases b with
    | format => rfl
    | extension kind gap name => exact absurd same (text_format_ne kind gap name)
  | extension kind gap name =>
    cases b with
    | format => exact absurd same.symm (text_format_ne kind gap name)
    | extension kind' gap' name' =>
      rw [text_extension, text_extension] at same
      have rest : gap.chars ++ name.chars = gap'.chars ++ name'.chars := by
        have found := dropStart?_extension kind (gap.chars ++ name.chars)
        rw [same, dropStart?_extension] at found
        exact (Option.some.inj found).symm
      rw [rest] at same
      have kinds : kind = kind' := by
        have words := List.append_cancel_right same
        cases kind <;> cases kind' <;> first | rfl | exact absurd words (by decide)
      have stops (name : Word) : Stops isBlank name.chars := by
        simpa using name.stops_append []
      obtain ⟨gaps, names⟩ := run_inj gap.inside (stops name) gap'.inside (stops name') rest
      rw [kinds, Run.ext gaps, Run.ext names]

/-- A text is an announcement in at most one way. -/
theorem Announcement.text_injective : Function.Injective Announcement.text := by
  intro a b same
  have afterName (a : Announcement) : dropAnnouncer? a.text =
      some (a.gap.chars ++ (announcedError ++ (a.lead ++ a.message))) :=
    dropAnnouncer?_text a.announcer (a.gap.stops_append _)
  have rests := Option.some.inj ((afterName a).symm.trans (same ▸ afterName b))
  have names : a.announcer = b.announcer := by
    have whole : a.announcer.text ++ (a.gap.chars ++ (announcedError ++ (a.lead ++ a.message))) =
        b.announcer.text ++ (a.gap.chars ++ (announcedError ++ (a.lead ++ a.message))) := by
      rw [← Announcement.text, same, Announcement.text, rests]
    exact Announcer.text_injective (List.append_cancel_right whole)
  obtain ⟨gaps, ends⟩ := run_inj a.gap.inside (stops_announcedError _) b.gap.inside
    (stops_announcedError _) rests
  obtain ⟨leads, messages⟩ := run_inj a.lead_blank a.message_visible b.lead_blank b.message_visible
    (List.append_cancel_left ends)
  have gaps := Run.ext gaps
  cases a
  cases b
  cases names
  cases gaps
  cases leads
  cases messages
  rfl

/-- The sentinel rules on a line before all else. -/
theorem classifyBy_sentinel (rules : List Rule) (m : List Char) :
    classifyBy (.sentinel :: rules) (sentinel ++ m) = .finding .error (dropAnnouncement m) := by
  rw [classifyBy, List.findSome?_cons, Rule.verdict?, Text.dropStart?_append]
  rfl

theorem dropReturns_sentinel (m : List Char) :
    Text.dropReturns (sentinel ++ m) = sentinel ++ Text.dropReturns m := by
  rw [sentinel, List.cons_append, List.cons_append, Text.dropReturns_cons, Text.dropReturns_cons,
    List.nil_append, if_neg fun ret => absurd ret.1 (by decide),
    if_neg fun ret => absurd ret.1 (by decide)]
  rfl

/-- A line of an output has a finding. -/
def reports (line : List Char) : Bool :=
  (classify (Text.dropReturns line)).isFinding

end LogLine

namespace Diagnostic
open LogLine

/-- A line of an output has this finding, wherever in the source that belongs. -/
def Reports (line : List Char) (d : Diagnostic) : Prop :=
  classify (Text.dropReturns line) = .finding d.severity d.message.toList

theorem reports_declared (lines : List (List Char)) :
    List.Forall₂ Reports (lines.filter reports)
      (declared (lines.map fun line => meaning (Text.dropReturns line))) := by
  induction lines with
  | nil => exact .nil
  | cons line lines ih =>
    rw [List.map_cons]
    cases means : meaning (Text.dropReturns line) with
    | finding severity message =>
      have told : classify (Text.dropReturns line) = .finding severity message := by
        rw [classify_eq_meaning, means]
      rw [List.filter_cons_of_pos (by rw [reports, told]; rfl), declared_finding]
      refine .cons ?_ ih
      rw [Reports, told, String.toList_ofList]
    | _ =>
      have silent : reports line = false := by rw [reports, classify_eq_meaning, means]; rfl
      rw [List.filter_cons_of_neg (by rw [silent]; exact Bool.false_ne_true), declared_other rfl]
      exact ih

/-- The findings in an output are those of its lines, one for each line that has one, in their
order. -/
theorem reports_parse {output : List Char} {ds : List Diagnostic} (parsed : parse output = .ok ds) :
    List.Forall₂ Reports ((Text.lines output).filter reports) ds := by
  rw [parse_eq] at parsed
  split at parsed
  · cases parsed
  · cases parsed
    exact reports_declared _

/-- The finding of one line stands between those of the lines before and after it. -/
theorem reports_split {before after : List (List Char)} {line : List Char} {ds : List Diagnostic}
    (has : reports line = true)
    (all : List.Forall₂ Reports ((before ++ line :: after).filter reports) ds) :
    ∃ earlier d later, ds = earlier ++ d :: later ∧
      List.Forall₂ Reports (before.filter reports) earlier ∧ Reports line d ∧
      List.Forall₂ Reports (after.filter reports) later := by
  rw [List.filter_append, List.filter_cons_of_pos has] at all
  generalize before.filter reports = first at all ⊢
  induction first generalizing ds with
  | nil =>
    obtain ⟨d, later, this, rest, rfl⟩ := List.forall₂_cons_left_iff.mp all
    exact ⟨[], d, later, rfl, .nil, this, rest⟩
  | cons other first ih =>
    obtain ⟨d', ds, that, others, rfl⟩ := List.forall₂_cons_left_iff.mp all
    obtain ⟨earlier, d, later, rfl, some, this, rest⟩ := ih others
    exact ⟨d' :: earlier, d, later, rfl, .cons that some, this, rest⟩

/-- What a line reports that begins with the sentinel: one error, with the message of the
announcement that follows, of which there is at most one, or with all that follows. No other rule
has a say, and on the whole output the error is the only finding of its line. -/
theorem sentinel_line_tells (m : List Char) :
    (∀ a b : Announcement, a.text = m → b.text = m → a = b) ∧ (∃! message, Tells m message) ∧
      (∀ message, Tells m message → classify (sentinel ++ m) = .finding .error message) ∧
      (∀ rules, classifyBy (.sentinel :: rules) (sentinel ++ m) = classify (sentinel ++ m)) ∧
      ∀ message, Tells (Text.dropReturns m) message →
        ('\n' ∉ m → parse (sentinel ++ m) = .ok [plain .error (String.ofList message)]) ∧
        ∀ output before after ds, Text.lines output = before ++ (sentinel ++ m) :: after →
          parse output = .ok ds →
            ∃ earlier d later, ds = earlier ++ d :: later ∧
              List.Forall₂ Reports (before.filter reports) earlier ∧
              d.severity = .error ∧ d.message = String.ofList message ∧
              List.Forall₂ Reports (after.filter reports) later := by
  refine ⟨fun a b first second => Announcement.text_injective (first.trans second.symm),
    ⟨_, tells_dropAnnouncement m, fun _ tells => tells.message_eq⟩, fun message tells => ?_,
    fun rules => ?_, fun message tells => ?_⟩
  · rw [tells.message_eq]
    exact classifyBy_sentinel _ m
  · exact (classifyBy_sentinel rules m).trans (classifyBy_sentinel _ m).symm
  · have told : classify (Text.dropReturns (sentinel ++ m)) = .finding .error message := by
      rw [dropReturns_sentinel, tells.message_eq]
      exact classifyBy_sentinel _ _
    refine ⟨fun whole => ?_, fun output before after ds cut parsed => ?_⟩
    · have free : '\n' ∉ sentinel ++ m := by simpa [sentinel] using whole
      rw [parse, Text.lines, Text.pieces_of_not_mem free, List.map_singleton, ofLines,
        List.foldlM_cons, told]
      rfl
    · have all := reports_parse parsed
      rw [cut] at all
      obtain ⟨earlier, d, later, split, first, this, last⟩ :=
        reports_split (by rw [reports, told]; rfl) all
      rw [Reports, told] at this
      obtain ⟨severity, text⟩ := LogLine.finding.inj this
      exact ⟨earlier, d, later, split, first, severity.symm, by rw [text, String.ofList_toList], last⟩

/-- A class whose name looks like the word for an error, and a second announcement in the message. -/
theorem sentinel_line_tells_once :
    let m := "Class Error:\tError: Package x Error: y\r".toList
    let message := "Package x Error: y".toList
    Tells (Text.dropReturns m) message ∧ '\n' ∉ m ∧
      parse (sentinel ++ m) = .ok [plain .error (String.ofList message)] := by
  intro m message
  have tells : Tells (Text.dropReturns m) message := by
    let name : Word :=
      ⟨['E', 'r', 'r', 'o', 'r', ':'], by decide, List.all_eq_true.mp (by decide)⟩
    let space : Gap := ⟨[' '], by decide, List.all_eq_true.mp (by decide)⟩
    let tab : Gap := ⟨['\t'], by decide, List.all_eq_true.mp (by decide)⟩
    have visible : Stops isBlank message := by
      rintro c ⟨⟩
      decide
    let a : Announcement :=
      ⟨.extension .documentClass space name, tab, space.chars, message, space.inside, visible⟩
    have cut : Text.dropReturns m = "Class".toList ++ (space.chars ++ name.chars) ++
        (tab.chars ++ (announcedError ++ (space.chars ++ message))) := by
      decide +kernel
    have whole : Text.dropReturns m = a.text := cut
    rw [whole]
    exact .announced a
  have whole : '\n' ∉ m := by decide
  obtain ⟨-, -, -, -, tell⟩ := sentinel_line_tells m
  exact ⟨tells, whole, (tell message tells).1 whole⟩

end Diagnostic

end TexBuild
