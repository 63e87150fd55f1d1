import TexBuild.Text.Lines

namespace TexBuild.Text

theorem pieces_cons {mark d : Char} {rest head : List Char} {more : List (List Char)}
    (cut : pieces mark rest = head :: more) :
    pieces mark (d :: rest) = if d = mark then [] :: head :: more else (d :: head) :: more := by
  rw [← cut, pieces, List.foldr_cons, ← pieces, cut]

/-- No character but the marks is lost when a text is cut. -/
theorem exists_mem_pieces {mark c : Char} {cs : List Char} (inside : c ∈ cs) (other : c ≠ mark) :
    ∃ piece ∈ pieces mark cs, c ∈ piece := by
  induction cs with
  | nil => cases inside
  | cons d rest ih =>
    obtain ⟨head, more, cut⟩ := List.exists_cons_of_ne_nil (pieces_ne_nil mark rest)
    rw [pieces_cons cut]
    rw [cut] at ih
    by_cases marked : d = mark
    · rw [if_pos marked]
      obtain rfl | later := List.mem_cons.mp inside
      · exact absurd marked other
      · obtain ⟨piece, among, there⟩ := ih later
        exact ⟨piece, .tail _ among, there⟩
    · rw [if_neg marked]
      obtain rfl | later := List.mem_cons.mp inside
      · exact ⟨_, .head _, .head _⟩
      · obtain ⟨piece, among, there⟩ := ih later
        obtain rfl | among := List.mem_cons.mp among
        · exact ⟨_, .head _, .tail _ there⟩
        · exact ⟨piece, .tail _ among, there⟩

/-- The characters of the pieces are those of the text. -/
theorem mem_of_mem_piece {mark c : Char} {cs piece : List Char} (among : piece ∈ pieces mark cs)
    (inside : c ∈ piece) : c ∈ cs := by
  induction cs generalizing piece with
  | nil =>
    rw [pieces_nil, List.mem_singleton] at among
    rw [among] at inside
    cases inside
  | cons d rest ih =>
    obtain ⟨head, more, cut⟩ := List.exists_cons_of_ne_nil (pieces_ne_nil mark rest)
    rw [pieces_cons cut] at among
    rw [cut] at ih
    by_cases marked : d = mark
    · rw [if_pos marked] at among
      obtain rfl | among := List.mem_cons.mp among
      · cases inside
      · exact .tail _ (ih among inside)
    · rw [if_neg marked] at among
      obtain rfl | among := List.mem_cons.mp among
      · obtain rfl | later := List.mem_cons.mp inside
        · exact .head _
        · exact .tail _ (ih (.head _) later)
      · exact .tail _ (ih (.tail _ among) inside)

/-- No piece holds a mark. -/
theorem mark_not_mem_piece {mark : Char} {cs piece : List Char} (among : piece ∈ pieces mark cs) :
    mark ∉ piece := by
  induction cs generalizing piece with
  | nil =>
    rw [pieces_nil, List.mem_singleton] at among
    rw [among]
    exact List.not_mem_nil
  | cons d rest ih =>
    obtain ⟨head, more, cut⟩ := List.exists_cons_of_ne_nil (pieces_ne_nil mark rest)
    rw [pieces_cons cut] at among
    rw [cut] at ih
    by_cases marked : d = mark
    · rw [if_pos marked] at among
      obtain rfl | among := List.mem_cons.mp among
      · exact List.not_mem_nil
      · exact ih among
    · rw [if_neg marked] at among
      obtain rfl | among := List.mem_cons.mp among
      · rw [List.mem_cons, not_or]
        exact ⟨Ne.symm marked, ih (.head _)⟩
      · exact ih (.tail _ among)

theorem mem_intercalate_iff {mark c : Char} (other : c ≠ mark) {pieces : List (List Char)} :
    c ∈ List.intercalate [mark] pieces ↔ ∃ piece ∈ pieces, c ∈ piece := by
  induction pieces with
  | nil => simp
  | cons piece rest ih =>
    cases rest with
    | nil => simp
    | cons next rest =>
      rw [List.intercalate_cons_cons, List.mem_append, List.mem_append, ih, List.mem_singleton]
      simp [other]

theorem pieces_append_mark (mark : Char) (cs ds : List Char) :
    pieces mark (cs ++ mark :: ds) = pieces mark cs ++ pieces mark ds := by
  induction cs with
  | nil =>
    obtain ⟨head, more, cut⟩ := List.exists_cons_of_ne_nil (pieces_ne_nil mark ds)
    rw [List.nil_append, pieces_cons cut, if_pos rfl, cut]
    rfl
  | cons c cs ih =>
    obtain ⟨head, more, cut⟩ := List.exists_cons_of_ne_nil (pieces_ne_nil mark cs)
    rw [cut] at ih
    rw [List.cons_append, pieces_cons ih, pieces_cons cut]
    by_cases marked : c = mark
    · rw [if_pos marked, if_pos marked]
      rfl
    · rw [if_neg marked, if_neg marked]
      rfl

theorem pieces_of_not_mem {mark : Char} {cs : List Char} (free : mark ∉ cs) :
    pieces mark cs = [cs] := by
  induction cs with
  | nil => rfl
  | cons c cs ih =>
    obtain ⟨other, free⟩ := not_or.mp (mt List.mem_cons.mpr free)
    rw [pieces_cons (ih free), if_neg (Ne.symm other)]

theorem intercalate_append_singleton {mark part : List Char} {parts : List (List Char)}
    (some : parts ≠ []) :
    mark.intercalate (parts ++ [part]) = mark.intercalate parts ++ mark ++ part := by
  induction parts with
  | nil => exact absurd rfl some
  | cons first rest ih =>
    cases rest with
    | nil => rw [List.singleton_append, List.intercalate_cons_cons, List.intercalate_singleton,
        List.intercalate_singleton]
    | cons next rest =>
      rw [List.cons_append, List.cons_append, List.intercalate_cons_cons, ← List.cons_append,
        ih (List.cons_ne_nil _ _), List.intercalate_cons_cons]
      simp only [List.append_assoc]

/-- A text that is joined from pieces without marks is cut into these. -/
theorem pieces_intercalate {mark : Char} {parts : List (List Char)} (some : parts ≠ [])
    (free : ∀ part ∈ parts, mark ∉ part) : pieces mark (List.intercalate [mark] parts) = parts := by
  induction parts with
  | nil => exact absurd rfl some
  | cons part rest ih =>
    cases rest with
    | nil =>
      rw [List.intercalate_singleton]
      exact pieces_of_not_mem (free part (.head _))
    | cons next rest =>
      have later := ih (List.cons_ne_nil _ _) fun part member => free part (.tail _ member)
      rw [List.intercalate_cons_cons, List.append_assoc, List.singleton_append,
        pieces_append_mark, later, pieces_of_not_mem (free part (.head _))]
      rfl

end TexBuild.Text
