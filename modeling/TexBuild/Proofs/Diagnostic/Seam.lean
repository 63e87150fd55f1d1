import TexBuild.Build.Supervision
import TexBuild.Proofs.Diagnostic.Refusal

namespace TexBuild

namespace LogLine

variable {before : List LogLine}

/-- A finding closes the window, whatever comes later. -/
theorem windowNumber?_append_of_finding (closes : ∃ l ∈ before, l.isFinding = true)
    (after : List LogLine) : windowNumber? (before ++ after) = windowNumber? before := by
  obtain ⟨last, member, finding⟩ := closes
  unfold windowNumber? window
  rw [List.takeWhile_append, if_neg]
  intro whole
  have inside : last ∈ before.takeWhile fun l => !l.isFinding := by
    rw [(List.takeWhile_sublist _).eq_of_length whole]
    exact member
  have plain := List.mem_takeWhile_imp inside
  rw [finding] at plain
  cases plain

theorem windowNumber?_append (opened : ∀ l ∈ before, l.isFinding = false)
    (after : List LogLine) :
    windowNumber? (before ++ after) = (windowNumber? before).or (windowNumber? after) := by
  have whole : window before = before :=
    List.takeWhile_eq_self_iff.mpr fun l member => by rw [opened l member]; rfl
  have longer : window (before ++ after) = before ++ window after :=
    List.takeWhile_append_of_pos fun l member => by rw [opened l member]; rfl
  unfold windowNumber?
  rw [whole, longer, List.findSome?_append]

end LogLine

namespace Diagnostic
open LogLine

theorem declared_eq_nil_iff {lines : List LogLine} :
    declared lines = [] ↔ ∀ l ∈ lines, l.isFinding = false := by
  induction lines with
  | nil => simp
  | cons line rest ih =>
    cases line with
    | finding severity message => simp [declared_finding, isFinding]
    | _ => rw [declared_other rfl, ih]; simp [isFinding]

/-- Findings, the last of which gets a line from elsewhere if it has none. -/
def lined (n : Option Int) (ds : List Diagnostic) : List Diagnostic :=
  ds.dropLast ++ ds.getLast?.toList.map fun last => { last with line := last.line.or n }

@[simp] theorem lined_nil (n : Option Int) : lined n [] = [] := rfl

theorem lined_singleton (n : Option Int) (d : Diagnostic) :
    lined n [d] = [{ d with line := d.line.or n }] := rfl

theorem lined_cons_cons (n : Option Int) (d next : Diagnostic) (rest : List Diagnostic) :
    lined n (d :: next :: rest) = d :: lined n (next :: rest) := by
  simp [lined, List.getLast?_cons_cons]

/-- What the lines of two texts declare: only the window of the last finding of the first
reaches into the second. -/
theorem declared_append (before after : List LogLine) :
    declared (before ++ after) =
      lined (windowNumber? after) (declared before) ++ declared after := by
  induction before with
  | nil => simp
  | cons line rest ih =>
    rw [List.cons_append]
    cases line with
    | finding severity message =>
      rw [declared_finding, declared_finding, ih]
      cases found : declared rest with
      | nil =>
        rw [lined_singleton, windowNumber?_append (declared_eq_nil_iff.mp found)]
        rfl
      | cons next others =>
        have closes : ∃ l ∈ rest, l.isFinding = true := by
          have some : ¬ declared rest = [] := by rw [found]; exact List.cons_ne_nil _ _
          rw [declared_eq_nil_iff] at some
          simpa using some
        rw [lined_cons_cons, windowNumber?_append_of_finding closes, List.cons_append]
    | _ => rw [declared_other rfl, declared_other rfl, ih]

theorem meanings_append (a b : List Char) : meanings (a ++ '\n' :: b) = meanings a ++ meanings b := by
  rw [meanings, Text.lines, Text.pieces_append_mark, List.map_append]
  rfl

theorem longReference?_append_eq_none_iff {a b : List Char} :
    longReference? (a ++ '\n' :: b) = none ↔
      longReference? a = none ∧ longReference? b = none ∧
        (declared (meanings a) ≠ [] → ∀ l ∈ window (meanings b), longNumeral? l = none) := by
  unfold longReference?
  rw [meanings_append, List.dropWhile_append]
  cases tail : (meanings a).dropWhile fun l => !l.isFinding with
  | nil =>
    have silent : declared (meanings a) = [] := by
      rw [declared_eq_nil_iff]
      simpa using List.dropWhile_eq_nil_iff.mp tail
    simp [silent]
  | cons first rest =>
    have some : declared (meanings a) ≠ [] := by
      rw [ne_eq, declared_eq_nil_iff]
      intro none
      have empty : (meanings a).dropWhile (fun l => !l.isFinding) = [] :=
        List.dropWhile_eq_nil_iff.mpr fun l member => by rw [none l member]; rfl
      rw [tail] at empty
      cases empty
    have cut : (meanings b).findSome? longNumeral? = none ↔
        (∀ l ∈ window (meanings b), longNumeral? l = none) ∧
          ((meanings b).dropWhile fun l => !l.isFinding).findSome? longNumeral? = none := by
      rw [← List.findSome?_eq_none_iff, ← Option.or_eq_none_iff, ← List.findSome?_append]
      exact iff_of_eq (congrArg (List.findSome? longNumeral? · = none)
        (List.takeWhile_append_dropWhile).symm)
    rw [if_neg (by simp), List.findSome?_append, Option.or_eq_none_iff, cut]
    tauto

/-- The findings in two texts with a line feed between are those of the first, of which the
last may find its line only in the second, and those of the second. -/
def Joined (a b : List Char) (ds : List Diagnostic) : Prop :=
  ∃ da db, parse a = .ok da ∧ parse b = .ok db ∧
    (da ≠ [] → ∀ l ∈ window (meanings b), longNumeral? l = none) ∧
    ds = lined (windowNumber? (meanings b)) da ++ db

theorem parse_append_iff {a b : List Char} {ds : List Diagnostic} :
    parse (a ++ '\n' :: b) = .ok ds ↔ Joined a b ds := by
  have ok_iff (text : List Char) (found : List Diagnostic) :
      parse text = .ok found ↔ longReference? text = none ∧ declared (meanings text) = found := by
    rw [parse_eq]
    cases longReference? text <;> simp
  unfold Joined
  simp only [ok_iff, longReference?_append_eq_none_iff, meanings_append, declared_append]
  constructor
  · rintro ⟨⟨first, second, readable⟩, rfl⟩
    exact ⟨_, _, ⟨first, rfl⟩, ⟨second, rfl⟩, readable, rfl⟩
  · rintro ⟨_, _, ⟨first, rfl⟩, ⟨second, rfl⟩, readable, rfl⟩
    exact ⟨⟨first, second, readable⟩, rfl⟩

/-- Texts with a line feed between are read one after the other but for the line of one
finding, and the two streams of an engine are such texts. -/
theorem parse_joined :
    (∀ a b ds, parse (a ++ '\n' :: b) = .ok ds ↔ Joined a b ds) ∧
      ∀ stdout stderr ds, parse (joinOutput stdout stderr) = .ok ds ↔
        Joined (Utf8.decode stdout.flatten) (Utf8.decode stderr.flatten) ds :=
  ⟨fun _ _ _ => parse_append_iff, fun _ _ _ => parse_append_iff⟩

/-- A finding on the first stream whose line stands on the second. -/
example : parse (joinOutput [[33, 32, 65]] [[108, 46, 51]]) =
    .ok [⟨.error, "A", none, some 3, none⟩] := by
  rfl

end Diagnostic

end TexBuild
