import Mathlib.Data.List.Forall2
import Mathlib.Data.List.Infix
import Mathlib.Order.Bounds.Basic
import TexBuild.Text.Search

namespace TexBuild.Text

theorem dropStart?_eq_some_iff {start cs rest : List Char} :
    dropStart? start cs = some rest ↔ cs = start ++ rest :=
  dropPattern?_eq_some_iff

@[simp] theorem dropStart?_append (start rest : List Char) :
    dropStart? start (start ++ rest) = some rest := by
  rw [dropStart?_eq_some_iff]

theorem dropStart?_cons_of_ne {c d : Char} (other : c ≠ d) (start cs : List Char) :
    dropStart? (c :: start) (d :: cs) = none := by
  simp [dropStart?, dropPattern?, other]

theorem dropStart?_eq (start cs : List Char) :
    dropStart? start cs = if start <+: cs then some (cs.drop start.length) else none := by
  split
  · next begins =>
    obtain ⟨rest, rfl⟩ := begins
    rw [List.drop_left]
    exact dropStart?_eq_some_iff.mpr rfl
  · next apart =>
    cases found : dropStart? start cs with
    | none => rfl
    | some rest => exact absurd ⟨rest, (dropStart?_eq_some_iff.mp found).symm⟩ apart

/-- The search finds a pattern wherever it stands, and nowhere else. -/
theorem holds_iff_infix {pattern cs : List Char} : holds pattern cs = true ↔ pattern <:+: cs := by
  unfold holds
  induction cs with
  | nil =>
    cases pattern with
    | nil => simp [after?, dropPattern?]
    | cons p ps => simp [after?, dropPattern?]
  | cons c cs ih =>
    rw [after?, List.infix_cons_iff]
    cases found : dropPattern? (· == ·) pattern (c :: cs) with
    | some rest =>
      have begins : pattern <+: c :: cs := ⟨rest, (dropPattern?_eq_some_iff.mp found).symm⟩
      simp only [Option.isSome_some, begins, true_or]
    | none =>
      have apart : ¬pattern <+: c :: cs := by
        rintro ⟨rest, same⟩
        rw [dropPattern?_eq_some_iff.mpr same.symm] at found
        cases found
      simp only [apart, false_or]
      exact ih

/-- The characters of a text from a place on fit a pattern one by one. -/
def StandsAt (fits : Char → Char → Prop) (pattern cs : List Char) (k : Nat) : Prop :=
  List.Forall₂ fits pattern ((cs.drop k).take pattern.length)

section Standing

variable {fits fits' : Char → Char → Prop} {same : Char → Char → Bool} {pattern cs rest : List Char}
  {c : Char} {k : Nat}

instance [DecidableRel fits] : Decidable (StandsAt fits pattern cs k) :=
  inferInstanceAs (Decidable (List.Forall₂ fits pattern ((cs.drop k).take pattern.length)))

theorem exists_standsAt_cons :
    (∃ k, StandsAt fits pattern (c :: cs) k) ↔
      StandsAt fits pattern (c :: cs) 0 ∨ ∃ k, StandsAt fits pattern cs k :=
  Nat.or_exists_add_one.symm

theorem forall₂_congr {word : List Char} (alike : ∀ p ∈ pattern, ∀ c, fits p c ↔ fits' p c) :
    List.Forall₂ fits pattern word ↔ List.Forall₂ fits' pattern word := by
  induction pattern generalizing word with
  | nil => rw [List.forall₂_nil_left_iff, List.forall₂_nil_left_iff]
  | cons p ps ih =>
    cases word with
    | nil => simp
    | cons c cs =>
      rw [List.forall₂_cons, List.forall₂_cons, alike p (.head _),
        ih fun q member => alike q (.tail _ member)]

theorem standsAt_congr (alike : ∀ p ∈ pattern, ∀ c, fits p c ↔ fits' p c) :
    StandsAt fits pattern cs k ↔ StandsAt fits' pattern cs k :=
  forall₂_congr alike

theorem dropPattern?_eq_some_iff_forall₂ :
    dropPattern? same pattern cs = some rest ↔
      List.Forall₂ (same · ·) pattern (cs.take pattern.length) ∧ rest = cs.drop pattern.length := by
  induction pattern generalizing cs with
  | nil => simp [dropPattern?, @eq_comm _ cs]
  | cons p ps ih =>
    cases cs with
    | nil => simp [dropPattern?]
    | cons c cs =>
      cases fit : same p c with
      | true => simp [dropPattern?, fit, ih]
      | false => simp [dropPattern?, fit]

/-- The search stops behind the leftmost place at which the pattern stands. -/
theorem after?_eq_some_iff :
    after? same pattern cs = some rest ↔
      ∃ k, IsLeast {j | StandsAt (same · ·) pattern cs j} k ∧ rest = cs.drop (k + pattern.length) := by
  induction cs with
  | nil =>
    rw [after?, dropPattern?_eq_some_iff_forall₂]
    constructor
    · rintro ⟨stands, rfl⟩
      exact ⟨0, ⟨stands, fun _ _ => Nat.zero_le _⟩, by simp⟩
    · rintro ⟨k, ⟨stands, -⟩, rfl⟩
      change List.Forall₂ _ pattern (([].drop k).take _) at stands
      rw [List.drop_nil] at stands
      exact ⟨stands, by simp⟩
  | cons c cs ih =>
    rw [after?]
    cases found : dropPattern? same pattern (c :: cs) with
    | some rest' =>
      obtain ⟨stands, rfl⟩ := dropPattern?_eq_some_iff_forall₂.mp found
      have first : IsLeast {j | StandsAt (same · ·) pattern (c :: cs) j} 0 :=
        ⟨stands, fun _ _ => Nat.zero_le _⟩
      constructor
      · rintro ⟨⟩
        exact ⟨0, first, by rw [Nat.zero_add]⟩
      · rintro ⟨k, least, rfl⟩
        rw [least.unique first, Nat.zero_add]
    | none =>
      have apart : ¬ StandsAt (same · ·) pattern (c :: cs) 0 := fun stands => by
        cases found.symm.trans (dropPattern?_eq_some_iff_forall₂.mpr ⟨stands, rfl⟩)
      rw [ih]
      constructor
      · rintro ⟨k, ⟨stands, least⟩, rfl⟩
        refine ⟨k + 1, ⟨stands, fun j standsAt => ?_⟩, by rw [Nat.add_right_comm, List.drop_succ_cons]⟩
        cases j with
        | zero => exact absurd standsAt apart
        | succ j => exact Nat.succ_le_succ (least standsAt)
      · rintro ⟨k, ⟨stands, least⟩, rfl⟩
        cases k with
        | zero => exact absurd stands apart
        | succ k =>
          refine ⟨k, ⟨stands, fun j standsAt => ?_⟩, by rw [Nat.add_right_comm, List.drop_succ_cons]⟩
          exact Nat.le_of_succ_le_succ (least (a := j + 1) standsAt)

theorem StandsAt.letter (stands : StandsAt fits pattern cs k) {i : Nat} (inside : i < pattern.length) :
    ∃ c, cs.drop (k + i) = c :: cs.drop (k + i + 1) ∧ fits pattern[i] c := by
  have long : i < ((cs.drop k).take pattern.length).length := stands.length_eq ▸ inside
  have within : k + i < cs.length := by
    rw [List.length_take, List.length_drop] at long
    omega
  refine ⟨cs[k + i], List.drop_eq_getElem_cons within, ?_⟩
  have fit := stands.get inside long
  simpa using fit

theorem payload_of_isLeast
    (first : IsLeast {j | StandsAt (sameLetter · ·) pattern cs j} k) :
    payload pattern cs = trim (cs.drop (k + pattern.length)) := by
  rw [payload, after?_eq_some_iff.mpr ⟨k, first, rfl⟩]

end Standing

section Mapping

variable {pattern : List Char} {f : Char → Char}

theorem prefix_map_iff (fixed : ∀ p ∈ pattern, ∀ c, f c = p ↔ c = p) (cs : List Char) :
    pattern <+: cs.map f ↔ pattern <+: cs := by
  induction pattern generalizing cs with
  | nil => simp
  | cons p ps ih =>
    cases cs with
    | nil => simp
    | cons c cs =>
      rw [List.map_cons, List.cons_prefix_cons, List.cons_prefix_cons, @eq_comm _ p, @eq_comm _ p,
        fixed p (.head _), ih fun q member => fixed q (.tail _ member)]

/-- A pattern is held as well by a text of which letters are changed that are not in it. -/
theorem infix_map_iff (fixed : ∀ p ∈ pattern, ∀ c, f c = p ↔ c = p) (cs : List Char) :
    pattern <:+: cs.map f ↔ pattern <:+: cs := by
  induction cs with
  | nil => rfl
  | cons c cs ih =>
    have first := prefix_map_iff fixed (c :: cs)
    rw [List.map_cons] at first
    rw [List.map_cons, List.infix_cons_iff, List.infix_cons_iff, ih, first]

end Mapping

end TexBuild.Text
