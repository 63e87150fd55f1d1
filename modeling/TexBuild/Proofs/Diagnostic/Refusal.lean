import TexBuild.Proofs.Diagnostic.Window
import TexBuild.Proofs.Text.Pieces

namespace TexBuild

namespace LogLine

theorem longNumeral?_eq_none_iff {line : LogLine} :
    longNumeral? line = none ↔
      ∀ digits, line = .place digits → digits.length ≤ Numeral.wholeLimit := by
  cases line with
  | place digits => simp [longNumeral?]
  | _ => simp [longNumeral?]

/-- The lines from the first finding on hold no numeral that is too long exactly if none stands
after a finding. -/
theorem findSome?_longNumeral?_eq_none_iff {lines : List LogLine} :
    (lines.dropWhile fun l => !l.isFinding).findSome? longNumeral? = none ↔
      ∀ before line after, lines = before ++ line :: after →
        (∃ earlier ∈ before, earlier.isFinding = true) → longNumeral? line = none := by
  induction lines with
  | nil => simp
  | cons first rest ih =>
    cases finding : first.isFinding with
    | true =>
      have whole : (first :: rest).dropWhile (fun l => !l.isFinding) = first :: rest := by
        simp [finding]
      rw [whole, List.findSome?_eq_none_iff]
      constructor
      · intro readable before line after cut _
        exact readable line (cut ▸ by simp)
      · intro readable line member
        obtain rfl | later := List.mem_cons.mp member
        · cases line with
          | finding severity message => rfl
          | _ => cases finding
        · obtain ⟨before, after, rfl⟩ := List.append_of_mem later
          exact readable (first :: before) line after rfl ⟨first, .head _, finding⟩
    | false =>
      have skipped : (first :: rest).dropWhile (fun l => !l.isFinding) =
          rest.dropWhile fun l => !l.isFinding := by
        simp [finding]
      rw [skipped, ih]
      constructor
      · intro readable before line after cut ⟨earlier, member, found⟩
        obtain ⟨rfl, -⟩ | ⟨tail, rfl, same⟩ := List.cons_eq_append_iff.mp cut
        · cases member
        · obtain rfl | later := List.mem_cons.mp member
          · rw [finding] at found
            cases found
          · exact readable tail line after same ⟨earlier, later, found⟩
      · rintro readable before line after rfl ⟨earlier, member, found⟩
        exact readable (first :: before) line after rfl ⟨earlier, .tail _ member, found⟩

/-- A mark and a run of ones are a reference, since no token can stand without a colon. -/
theorem meaning_ones (n : Nat) :
    meaning (referenceMark ++ List.replicate (n + 1) '1') = .place (List.replicate (n + 1) '1') := by
  have letters : ∀ c ∈ referenceMark ++ List.replicate (n + 1) '1', smallForm c = [c] ∧ c ≠ ':' := by
    intro c member
    obtain mark | one := List.mem_append.mp member
    · obtain rfl | rfl : c = 'l' ∨ c = '.' := by simpa [referenceMark] using mark
      · decide
      · decide
    · obtain rfl := (List.mem_replicate.mp one).2
      decide
  have small : Text.lowered (referenceMark ++ List.replicate (n + 1) '1') =
      referenceMark ++ List.replicate (n + 1) '1' := by
    rw [Text.lowered, List.flatMap_congr fun c member => (letters c member).1]
    exact List.flatMap_singleton' _
  have noToken {token : List Char} (colon : ':' ∈ token) :
      ¬ token <:+: referenceMark ++ List.replicate (n + 1) '1' :=
    fun inside => (letters ':' (inside.subset colon)).2 rfl
  unfold meaning
  rw [small, if_neg (by simp [sentinel, referenceMark]), if_neg (noToken (by decide)),
    if_neg (noToken (by decide)), if_neg (noToken (by decide)), if_pos (List.prefix_append _ _),
    List.drop_left]
  simp [List.replicate_succ]

end LogLine

namespace Diagnostic
open LogLine

/-- An output is read exactly if no line after one with a finding is a reference with a numeral
of more than 4300 digits. -/
theorem parse_returns_iff (output : List Char) :
    (∃ ds, parse output = .ok ds) ↔
      ∀ before line after digits, Text.lines output = before ++ line :: after →
        (∃ earlier ∈ before, (meaning (Text.dropReturns earlier)).isFinding = true) →
        meaning (Text.dropReturns line) = .place digits → digits.length ≤ 4300 := by
  have returns : (∃ ds, parse output = .ok ds) ↔ longReference? output = none := by
    rw [parse_eq]
    cases longReference? output <;> simp
  rw [returns, longReference?, findSome?_longNumeral?_eq_none_iff]
  constructor
  · rintro readable before line after digits cut ⟨earlier, member, found⟩ reference
    have cut' : meanings output = before.map (fun line => meaning (Text.dropReturns line)) ++
        meaning (Text.dropReturns line) :: after.map fun line => meaning (Text.dropReturns line) := by
      rw [meanings, cut, List.map_append, List.map_cons]
    exact longNumeral?_eq_none_iff.mp
      (readable _ _ _ cut' ⟨_, List.mem_map_of_mem member, found⟩) digits reference
  · rintro short before line after cut ⟨earlier, member, found⟩
    obtain ⟨before', rest, lines, rfl, same⟩ := List.map_eq_append_iff.mp cut
    obtain ⟨line', after', rfl, rfl, rfl⟩ := List.map_eq_cons_iff.mp same
    obtain ⟨earlier', member', rfl⟩ := List.mem_map.mp member
    refine longNumeral?_eq_none_iff.mpr fun digits reference => ?_
    exact short before' line' after' digits lines ⟨earlier', member', found⟩ reference

theorem longReference?_ones {n : Nat} (long : Numeral.wholeLimit < n + 1) :
    longReference? ("! a".toList ++ '\n' :: (referenceMark ++ List.replicate (n + 1) '1')) =
      some ⟨n + 1⟩ := by
  have oneLine : '\n' ∉ referenceMark ++ List.replicate (n + 1) '1' := by
    simp [referenceMark, List.mem_replicate]
  have whole : Text.dropReturns (referenceMark ++ List.replicate (n + 1) '1') =
      referenceMark ++ List.replicate (n + 1) '1' := by
    simp [Text.dropReturns, List.replicate_succ']
  have finding : meaning (Text.dropReturns "! a".toList) = .finding .error ['a'] := by decide
  rw [longReference?, meanings, Text.lines, Text.pieces_append_mark, Text.pieces_of_not_mem oneLine]
  change ([meaning (Text.dropReturns "! a".toList),
    meaning (Text.dropReturns (referenceMark ++ List.replicate (n + 1) '1'))].dropWhile
      fun l => !l.isFinding).findSome? longNumeral? = _
  rw [whole, meaning_ones, finding]
  simp [isFinding, longNumeral?, List.findSome?_cons, long]

/-- A reference of 4301 digits after a finding. -/
theorem parse_refuses_reference :
    ¬ ∃ ds, parse ("! a".toList ++ '\n' :: (referenceMark ++ List.replicate 4301 '1')) = .ok ds := by
  rintro ⟨ds, read⟩
  have long := longReference?_ones (n := 4300) (by decide)
  rw [parse_eq] at read
  generalize List.replicate 4301 '1' = digits at read long
  rw [long] at read
  cases read

end Diagnostic

end TexBuild
