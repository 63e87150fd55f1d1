import TexBuild.Text.CodePoint

namespace TexBuild

/-- A component of a path: neither empty nor the single dot, which both stand
for no step at all, and without a slash. The two dots are a name like others. -/
structure Name where
  text : String
  valid : text.toList ≠ [] ∧ text.toList ≠ ['.'] ∧ '/' ∉ text.toList
deriving DecidableEq

namespace Name

/-- The name with the given characters, if they are fit for one. -/
def ofChars? (cs : List Char) : Option Name :=
  if h : cs ≠ [] ∧ cs ≠ ['.'] ∧ '/' ∉ cs then
    some ⟨String.ofList cs, by simpa only [String.toList_ofList] using h⟩
  else none

/-- The characters of a name. -/
def chars (n : Name) : List Char :=
  n.text.toList

theorem ext_chars {a b : Name} (h : a.chars = b.chars) : a = b := by
  cases a with
  | mk s _ =>
    cases b with
    | mk t _ =>
      have same : s = t := String.toList_injective h
      subst same
      rfl

@[simp] theorem ofChars?_chars (n : Name) : ofChars? n.chars = some n := by
  have valid : n.chars ≠ [] ∧ n.chars ≠ ['.'] ∧ '/' ∉ n.chars := n.valid
  rw [ofChars?, dif_pos valid]
  exact congrArg some (ext_chars (by simp [chars]))

theorem chars_of_ofChars? {cs : List Char} {n : Name} (h : ofChars? cs = some n) :
    n.chars = cs := by
  unfold ofChars? at h
  split at h
  · cases h
    simp [chars]
  · cases h

/-- The name of the directory above. -/
def up : Name :=
  ⟨"..", by decide⟩

/-- The place of the last dot of a name, counted from its end. -/
def suffixLength (cs : List Char) : Nat :=
  (cs.reverse.takeWhile (· != '.')).length

/-- The name without its last suffix. A dot at either end of the name opens no
suffix. -/
def stem (n : Name) : List Char :=
  let cs := n.chars
  let size := suffixLength cs
  if size = 0 ∨ cs.length ≤ size + 1 then cs else cs.take (cs.length - (size + 1))

theorem stem_eq_take (n : Name) : ∃ k, n.stem = n.chars.take k := by
  unfold stem
  dsimp only
  split
  · exact ⟨n.chars.length, (List.take_length).symm⟩
  · exact ⟨_, rfl⟩

theorem slash_not_mem_stem (n : Name) : '/' ∉ n.stem := by
  obtain ⟨k, h⟩ := n.stem_eq_take
  rw [h]
  exact fun inside => n.valid.2.2 (List.mem_of_mem_take inside)

/-- The number of octets that the name takes on a volume. -/
def octets (n : Name) : Nat :=
  Text.octets n.chars

end Name

end TexBuild
