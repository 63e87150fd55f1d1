namespace TexBuild.Text

/-- The pieces of a text between the marks `mark`; a text without a mark is one
piece, and the marks belong to no piece. -/
def pieces (mark : Char) (cs : List Char) : List (List Char) :=
  cs.foldr (fun c done =>
    if c = mark then [] :: done
    else
      match done with
      | [] => [[c]]
      | piece :: rest => (c :: piece) :: rest) [[]]

@[simp] theorem pieces_nil (mark : Char) : pieces mark [] = [[]] := rfl

theorem pieces_ne_nil (mark : Char) (cs : List Char) : pieces mark cs ≠ [] := by
  cases cs with
  | nil => simp
  | cons c cs =>
    simp only [pieces, List.foldr_cons]
    split
    · simp
    · split <;> simp

/-- The lines of a text: it is cut at each line feed. -/
def lines (cs : List Char) : List (List Char) :=
  pieces '\n' cs

/-- A line without the carriage returns at its end. -/
def dropReturns (line : List Char) : List Char :=
  (line.reverse.dropWhile (· == '\r')).reverse

/-- The text with each line end, carriage return and line feed or either alone,
written as one line feed. -/
def unifyLineEnds (cs : List Char) : List Char :=
  (cs.foldr (fun c (next : List Char × Bool) =>
    if c = '\r' then (if next.2 then next.1 else '\n' :: next.1, false)
    else (c :: next.1, c == '\n')) ([], false)).1

end TexBuild.Text
