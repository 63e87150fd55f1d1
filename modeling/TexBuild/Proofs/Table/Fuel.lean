import TexBuild.Proofs.Table.Evaluation

namespace TexBuild.Table

variable {α β : Type} {environment : Environment} {m n : Nat} {home value value' : Spot}
  {path : List String} {t : String}

/-- Where the one computation has a value the other has the same. -/
def Below (a b : Except TableError α) : Prop :=
  ∀ x, a = .ok x → b = .ok x

theorem Below.bind {a b : Except TableError α} {f g : α → Except TableError β} (first : Below a b)
    (next : ∀ x, Below (f x) (g x)) : Below (a >>= f) (b >>= g) := by
  intro y found
  obtain ⟨x, one, two⟩ := bind_eq_ok_iff.mp found
  exact bind_eq_ok_iff.mpr ⟨x, first x one, next x y two⟩

theorem respects_below : Respects fun _ a b => Below a b where
  value _ _ found := found
  refusal _ := nofun
  bind := Below.bind

/-- What has a value within so many steps has it within more. -/
theorem textValue_of_le (less : m ≤ n) (found : textValue environment m home path t = .ok value) :
    textValue environment n home path t = .ok value :=
  (respects_below.related less).text home path t value found

theorem pieceValue_of_le {piece : Piece} (less : m ≤ n)
    (found : pieceValue environment m home path piece = .ok value) :
    pieceValue environment n home path piece = .ok value :=
  (respects_below.related less).piece home path piece value found

/-- A text has one value, however many steps it is given. -/
theorem textValue_unique (found : textValue environment m home path t = .ok value)
    (again : textValue environment n home path t = .ok value') : value = value' := by
  have first := textValue_of_le (Nat.le_add_right m n) found
  have second := textValue_of_le (Nat.le_add_left n m) again
  exact Except.ok.inj (first.symm.trans second)

end TexBuild.Table
