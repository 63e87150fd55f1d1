import Mathlib.Data.List.TakeWhile
import Mathlib.Order.Nat
import TexBuild.Diagnostic.Scan
import TexBuild.Proofs.Text.LetterCase

namespace TexBuild

namespace Text

variable {line : List Char} {k : Nat}

/-- Trimming takes only blanks. -/
theorem count_trim {c : Char} (visible : isBlank c = false) (cs : List Char) :
    (trim cs).count c = cs.count c := by
  have blanks (ds : List Char) : (ds.takeWhile isBlank).count c = 0 :=
    List.count_eq_zero.mpr fun member => by
      rw [List.mem_takeWhile_imp member] at visible
      cases visible
  have start (ds : List Char) : (ds.dropWhile isBlank).count c = ds.count c := by
    have parts := congrArg (List.count c) (List.takeWhile_append_dropWhile (p := isBlank) (l := ds))
    rwa [List.count_append, blanks, Nat.zero_add] at parts
  rw [trim, trimEnd, trimStart, List.count_reverse, start, List.count_reverse, start]

/-- What follows a token with a colon at its end is less than what follows an earlier place. -/
theorem trim_drop_ne {init : List Char} {j : Nat} (stands : StandsAt LowersTo (init ++ [':']) line k)
    (before : j < k) :
    trim (line.drop (j + (init ++ [':']).length)) ≠ trim (line.drop (k + (init ++ [':']).length)) := by
  obtain ⟨c, cut, lowers⟩ := stands.letter (i := init.length) (by simp)
  obtain rfl := eq_colon_of_lowersTo (by simpa using lowers)
  have shorter : (line.drop (k + init.length)).Sublist (line.drop (j + (init ++ [':']).length)) := by
    refine List.drop_sublist_drop_left line ?_
    rw [List.length_append, List.length_singleton]
    omega
  have fewer := shorter.count_le ':'
  rw [cut, List.count_cons_self] at fewer
  intro same
  have counts := congrArg (List.count ':') same
  rw [count_trim (by decide), count_trim (by decide)] at counts
  rw [counts, List.length_append, List.length_singleton, ← Nat.add_assoc] at fewer
  omega

end Text

namespace LogLine
open Text

/-- What the search for a token finds in a line, and what it takes for its message. -/
structure Extracts (token line : List Char) : Prop where
  detected : holds token (lowered line) = true ↔ ∃ k, StandsAt LowersTo token line k
  sigma : ∀ small, IsLowered line small → holds token small = holds token (lowered line)
  message : ∀ k, IsLeast {j | StandsAt ReadsAs token line j} k →
    payload token line = trim (line.drop (k + token.length))
  agrees : ∀ k, IsLeast {j | StandsAt LowersTo token line j} k →
    (payload token line = trim (line.drop (k + token.length)) ↔
      ∀ j < k, ¬ StandsAt ReadsAs token line j)

theorem extracts_of_isWhole (init : List Char) {line : List Char} (whole : IsWhole (init ++ [':']))
    (plain : (init ++ [':']).all fun p => p.toNat < 0x80 ∧ smallLetter p = p ∧ p ≠ 's') :
    Extracts (init ++ [':']) line := by
  have letters : ∀ p ∈ init ++ [':'], p.toNat < 0x80 ∧ smallLetter p = p ∧ p ≠ 's' := by
    simpa only [List.all_eq_true, decide_eq_true_eq] using plain
  have alike (j : Nat) : StandsAt (sameLetter · ·) (init ++ [':']) line j ↔
      StandsAt ReadsAs (init ++ [':']) line j :=
    standsAt_congr fun p member c =>
      let ⟨ascii, small, notS⟩ := letters p member
      sameLetter_iff_readsAs ascii small notS
  have message (k : Nat) (first : IsLeast {j | StandsAt ReadsAs (init ++ [':']) line j} k) :
      payload (init ++ [':']) line = trim (line.drop (k + (init ++ [':']).length)) :=
    payload_of_isLeast (by simpa only [alike] using first)
  refine ⟨?_, fun small lower => ?_, message, fun k first => ⟨fun agree j before reads => ?_, fun apart => ?_⟩⟩
  · exact holds_iff_infix.trans (infix_lowered_iff whole (by simp))
  · have noSigma : ∀ p ∈ init ++ [':'], p ≠ 'ς' ∧ p ≠ 'σ' := fun p member =>
      ⟨fun same => absurd (same ▸ (letters p member).1) (by decide),
        fun same => absurd (same ▸ (letters p member).1) (by decide)⟩
    rw [Bool.eq_iff_iff, holds_iff_infix, holds_iff_infix]
    exact infix_iff_of_isLowered lower (fun member => (noSigma _ member).1 rfl)
      fun member => (noSigma _ member).2 rfl
  · have some : ∃ j, StandsAt ReadsAs (init ++ [':']) line j := ⟨j, reads⟩
    have earlier := Nat.isLeast_find some
    refine trim_drop_ne first.1 (j := Nat.find some) ?_ ((message _ earlier).symm.trans agree)
    exact (earlier.2 reads).trans_lt before
  · refine message k ⟨first.1.imp fun _ _ lowers => .inl lowers, fun j reads => ?_⟩
    exact Nat.le_of_not_lt fun before => apart j before reads

/-- The tokens of errors and warnings are told in a line exactly where its letters lower to
them. The message is what follows the leftmost of these places, unless an earlier one reads as the
token by another form of the i, which only that of warnings has. -/
theorem payload_follows_token (line : List Char) :
    Extracts errorToken line ∧ Extracts warningToken line ∧
      ∀ k, StandsAt ReadsAs errorToken line k ↔ StandsAt LowersTo errorToken line k := by
  refine ⟨extracts_of_isWhole "error".toList ⟨by decide, by decide⟩ (by decide +kernel),
    extracts_of_isWhole "warning".toList ⟨by decide, by decide⟩ (by decide +kernel), fun k => ?_⟩
  refine standsAt_congr fun p member c => or_iff_left fun ⟨isI, _⟩ => ?_
  subst isI
  exact absurd member (by decide)

/-- A token without its dot before the one that is told: the message begins between them. -/
theorem payload_follows_dotless :
    let line := "warnıng: a warning: b".toList
    IsLeast {j | StandsAt LowersTo warningToken line j} 11 ∧
      trim (line.drop (11 + warningToken.length)) = ['b'] ∧
      payload warningToken line = "a warning: b".toList ∧
      classify line = .finding .warning "a warning: b".toList := by
  refine ⟨⟨by decide +kernel, fun j stands => ?_⟩, by decide +kernel, by decide +kernel,
    by decide +kernel⟩
  by_contra before
  have none : ∀ j < 11, ¬ StandsAt LowersTo warningToken "warnıng: a warning: b".toList j := by
    decide +kernel
  exact none j (Nat.lt_of_not_le before) stands

/-- The first rule of a list that fits a line, and what the line means under it. -/
def ruling? (rules : List Rule) (line : List Char) : Option (Rule × LogLine) :=
  rules.findSome? fun r => (r.verdict? line).map (r, ·)

theorem classifyBy_eq_ruling? (rules : List Rule) (line : List Char) :
    classifyBy rules line = ((ruling? rules line).map Prod.snd).getD .other := by
  rw [ruling?, List.map_findSome?]
  simp only [classifyBy, Function.comp_def, Option.map_map, Option.map_id']

/-- The label of the engine holds the token of warnings, whatever is around it. -/
theorem warningToken_fits_label {line : List Char} (label : engineLabel <:+: line) :
    (Rule.warningToken.verdict? line).isSome = true := by
  obtain ⟨before, after, rfl⟩ := label
  have inside : warningToken <:+: lowered (before ++ engineLabel ++ after) := by
    have small : lowered engineLabel = "latex ".toList ++ warningToken := by decide +kernel
    rw [lowered_append, lowered_append, small, ← List.append_assoc]
    exact List.infix_append _ _ _
  have told := holds_iff_infix.mpr inside
  rw [Rule.verdict?, if_pos told]
  rfl

/-- Behind the token of warnings the label decides nothing. -/
theorem ruling?_without_label {before : List Rule} (after : List Rule) (line : List Char)
    (warned : .warningToken ∈ before) :
    ruling? (before ++ after) line = ruling? (before ++ .engineLabel :: after) line := by
  unfold ruling?
  rw [List.findSome?_append, List.findSome?_append, List.findSome?_cons]
  by_cases label : engineLabel <:+: line
  · have settled : (before.findSome? fun r => (r.verdict? line).map (r, ·)).isSome = true :=
      List.findSome?_isSome_iff.mpr ⟨_, warned, by
        rw [Option.isSome_map, warningToken_fits_label label]⟩
    rw [Option.or_of_isSome settled, Option.or_of_isSome settled]
  · rw [Rule.verdict?, if_neg (mt holds_iff_infix.mp label)]
    rfl

end LogLine

namespace Diagnostic
open LogLine

/-- The findings in an output whose lines are read by some rules. -/
def parseBy (rules : List Rule) (output : List Char) : Except LongNumeral (List Diagnostic) := do
  let found ← ((Text.lines output).map Text.dropReturns).foldlM
    (fun found line => absorb found (classifyBy rules line)) []
  return found.reverse

theorem parseBy_all (output : List Char) : parseBy Rule.all output = parse output := rfl

/-- The label of the engine needs no rule of its own: a line with it fits an earlier one, so
that without it each line is ruled on by the same rule to the same effect, and each output read as the same. -/
theorem label_decides_nothing :
    (∀ line, engineLabel <:+: line →
      ∃ r ∈ [Rule.sentinel, .errorToken, .warningToken], (r.verdict? line).isSome = true) ∧
    (∀ line, ruling? (Rule.all.erase .engineLabel) line = ruling? Rule.all line ∧
      classifyBy (Rule.all.erase .engineLabel) line = classify line) ∧
    ∀ output, parseBy (Rule.all.erase .engineLabel) output = parse output := by
  have same (line : List Char) :
      ruling? (Rule.all.erase .engineLabel) line = ruling? Rule.all line :=
    have warned : Rule.warningToken ∈ [Rule.sentinel, .errorToken, .warningToken] := by decide
    ruling?_without_label [.reference] line warned
  have alike (line : List Char) : classifyBy (Rule.all.erase .engineLabel) line = classify line := by
    rw [classify, classifyBy_eq_ruling?, same, ← classifyBy_eq_ruling?]
  refine ⟨fun line label => ⟨.warningToken, by decide, warningToken_fits_label label⟩,
    fun line => ⟨same line, alike line⟩, fun output => ?_⟩
  rw [← parseBy_all, parseBy, parseBy]
  simp only [alike, classify]

end Diagnostic

end TexBuild
