import TexBuild.Proofs.Except
import TexBuild.Tool.Search

namespace TexBuild.Table

/-- A relation between computations that values have to themselves and refusals to anything, and
that binds keep. -/
structure Respects (R : ∀ α : Type, Except TableError α → Except TableError α → Prop) : Prop where
  value : ∀ {α : Type} (x : α), R α (.ok x) (.ok x)
  refusal : ∀ {α : Type} {e : TableError} {b : Except TableError α},
    Search.isTableRefusal (.table e) = true → R α (.error e) b
  bind : ∀ {α β : Type} {a b : Except TableError α} {f g : α → Except TableError β},
    R α a b → (∀ x, R β (f x) (g x)) → R β (a >>= f) (b >>= g)

/-- What the texts, pieces, keys, names and calls have within so many steps is related to what they
have within others. -/
structure Related (R : ∀ α : Type, Except TableError α → Except TableError α → Prop)
    (environment : Environment) (m n : Nat) : Prop where
  text : ∀ home path t,
    R _ (textValue environment m home path t) (textValue environment n home path t)
  piece : ∀ home path piece,
    R _ (pieceValue environment m home path piece) (pieceValue environment n home path piece)
  pieces : ∀ home path pieces,
    R _ (pieceValues environment m home path pieces) (pieceValues environment n home path pieces)
  texts : ∀ home path pieces,
    R _ (pieceTexts environment m home path pieces) (pieceTexts environment n home path pieces)
  keys : ∀ home path pieces,
    R _ (keysText environment m home path pieces) (keysText environment n home path pieces)
  name : ∀ must home name,
    R _ (follow environment m must home name) (follow environment n must home name)
  inner : ∀ must spot keys,
    R _ (descend environment m must spot keys) (descend environment n must spot keys)
  called : ∀ home path name arguments,
    R _ (call environment m home path name arguments) (call environment n home path name arguments)

variable {R : ∀ α : Type, Except TableError α → Except TableError α → Prop}
  {environment : Environment} {m n : Nat}

theorem ite_related {α : Type} {p : Prop} [Decidable p] {a a' b b' : Except TableError α}
    (yes : R α a a') (no : R α b b') : R α (if p then a else b) (if p then a' else b') := by
  split
  · exact yes
  · exact no

/-- What is missing is a refusal. -/
theorem Respects.elim (respects : Respects R) {α β : Type} {f g : α → Except TableError β}
    (next : ∀ x, R β (f x) (g x)) (x? : Option α) :
    R β (x?.elim (.error .unresolved) f) (x?.elim (.error .unresolved) g) := by
  cases x? with
  | none => exact respects.refusal rfl
  | some x => exact next x

theorem Respects.member? (respects : Respects R) (spot : Spot) (key : String) :
    R _ (spot.member? key) (spot.member? key) := by
  unfold Spot.member?
  split
  · exact respects.value _
  · split
    · exact respects.refusal rfl
    · exact respects.value _
  · exact respects.refusal rfl

/-- Without a step everything is a refusal. -/
theorem Respects.related_zero (respects : Respects R) : Related R environment 0 n := by
  constructor <;> intros <;> exact respects.refusal rfl

theorem Related.textValue_succ (respects : Respects R) (related : Related R environment m n)
    (home : Spot) (path : List String) (t : String) :
    R _ (textValue environment (m + 1) home path t) (textValue environment (n + 1) home path t) := by
  rw [textValue, textValue]
  split
  · exact respects.value _
  · split
    · exact respects.refusal rfl
    · exact related.piece _ _ _

theorem Related.pieceValue_succ (respects : Respects R) (related : Related R environment m n)
    (home : Spot) (path : List String) (piece : Piece) :
    R _ (pieceValue environment (m + 1) home path piece)
      (pieceValue environment (n + 1) home path piece) := by
  cases piece with
  | plain cs => exact respects.value _
  | word w => exact respects.value _
  | tooLong => exact respects.refusal rfl
  | joined pieces => exact respects.bind (related.texts _ _ _) fun _ => respects.value _
  | list items => exact respects.bind (related.pieces _ _ _) fun _ => respects.value _
  | record fields => exact respects.bind (related.pieces _ _ _) fun _ => respects.value _
  | reference keys =>
    refine respects.bind (related.keys _ _ _) fun name => ?_
    refine respects.bind (related.name _ _ _) fun target => ?_
    cases target with
    | none => exact respects.refusal rfl
    | some target =>
      dsimp only
      split
      · exact respects.refusal rfl
      · exact respects.value _
  | call name arguments =>
    refine respects.bind (related.keys _ _ _) fun name => ?_
    refine respects.bind (related.pieces _ _ _) fun arguments => ?_
    refine respects.bind (related.called _ _ _ _) fun result => ?_
    split
    · exact respects.refusal rfl
    · exact respects.value _

theorem Related.pieceValues_succ (respects : Respects R) (related : Related R environment m n)
    (home : Spot) (path : List String) (pieces : List Piece) :
    R _ (pieceValues environment (m + 1) home path pieces)
      (pieceValues environment (n + 1) home path pieces) := by
  cases pieces with
  | nil => exact respects.value _
  | cons piece rest =>
    exact respects.bind (related.piece _ _ _) fun _ =>
      respects.bind (related.pieces _ _ _) fun _ => respects.value _

theorem Related.pieceTexts_succ (respects : Respects R) (related : Related R environment m n)
    (home : Spot) (path : List String) (pieces : List Piece) :
    R _ (pieceTexts environment (m + 1) home path pieces)
      (pieceTexts environment (n + 1) home path pieces) := by
  cases pieces with
  | nil => exact respects.value _
  | cons piece rest =>
    refine respects.bind (related.piece _ _ _) fun value => ?_
    cases value.node.inText? with
    | none => exact respects.refusal rfl
    | some text => exact respects.bind (related.texts _ _ _) fun _ => respects.value _

theorem Related.keysText_succ (respects : Respects R) (related : Related R environment m n)
    (home : Spot) (path : List String) (pieces : List Piece) :
    R _ (keysText environment (m + 1) home path pieces)
      (keysText environment (n + 1) home path pieces) := by
  cases pieces with
  | nil => exact respects.value _
  | cons piece rest =>
    refine respects.bind (related.piece _ _ _) fun value => ?_
    cases keyText? value.node with
    | none => exact respects.refusal rfl
    | some text => exact respects.bind (related.keys _ _ _) fun _ => respects.value _

theorem Related.follow_succ (respects : Respects R) (related : Related R environment m n)
    (must : Bool) (home : Spot) (name : String) :
    R _ (follow environment (m + 1) must home name) (follow environment (n + 1) must home name) := by
  rw [follow, follow]
  split
  · exact respects.value _
  · split
    · exact respects.value _
    · exact related.inner _ _ _

/-- A name is followed down by its keys, each of which may hold a text of its own. -/
theorem Related.descend_succ (respects : Respects R) (related : Related R environment m n)
    (must : Bool) (spot : Spot) (keys : List String) :
    R _ (descend environment (m + 1) must spot keys)
      (descend environment (n + 1) must spot keys) := by
  cases keys with
  | nil => exact respects.value _
  | cons key rest =>
    rw [descend, descend]
    refine respects.bind (respects.member? spot key) fun level => ?_
    split
    · exact respects.value _
    · split
      · exact respects.refusal rfl
      · exact respects.bind (related.text _ _ _) fun _ => related.inner _ _ _
    · exact related.inner _ _ _

theorem Related.call_succ (respects : Respects R) (related : Related R environment m n)
    (home : Spot) (path : List String) (name : String) (arguments : List Spot) :
    R _ (call environment (m + 1) home path name arguments)
      (call environment (n + 1) home path name arguments) := by
  -- the cases in the order of the sources: two of `oc.env`, one without a value for `oc.decode`
  -- and `oc.create` each, and so on down to names that are no source
  unfold call
  split
  · exact respects.elim (fun _ => respects.value _) _
  · split
    · exact respects.value _
    · exact respects.value _
    · exact respects.elim (fun _ => respects.value _) _
  · exact respects.value _
  · exact respects.value _
  · dsimp only
    split
    · exact related.piece _ _ _
    · exact respects.refusal rfl
  · exact respects.elim (fun _ => respects.value _) _
  · exact respects.elim (fun _ => respects.value _) _
  · exact respects.elim (fun _ => respects.value _) _
  · split
    · exact respects.refusal rfl
    · refine respects.bind (related.name _ _ _) fun target => ?_
      split
      · exact respects.value _
      · cases arguments[1]? with
        | none => exact respects.value _
        | some otherwise => exact respects.value _
  · refine respects.bind (related.name _ _ _) fun target => ?_
    split
    · exact ite_related (respects.value _) (respects.refusal rfl)
    · exact respects.refusal rfl
  · refine respects.bind (respects.bind (related.name _ _ _) fun target => ?_)
      fun fields => respects.value _
    split
    · exact respects.value _
    · exact respects.refusal rfl
  · refine respects.bind (respects.bind (related.name _ _ _) fun target => ?_)
      fun fields => respects.elim (fun _ => respects.value _) _
    split
    · exact respects.value _
    · exact respects.refusal rfl
  · exact respects.elim (fun _ => respects.value _) _
  · refine respects.refusal ?_
    split <;> rfl

/-- What is related step by step is related in any number of steps and more of them. -/
theorem Respects.related (respects : Respects R) (less : m ≤ n) : Related R environment m n := by
  induction m generalizing n with
  | zero => exact respects.related_zero
  | succ m ih =>
    obtain ⟨n, rfl⟩ := Nat.exists_eq_add_of_lt less
    have within : Related R environment m (m + n) := ih (Nat.le_add_right m n)
    exact ⟨within.textValue_succ respects, within.pieceValue_succ respects,
      within.pieceValues_succ respects, within.pieceTexts_succ respects,
      within.keysText_succ respects, within.follow_succ respects, within.descend_succ respects,
      within.call_succ respects⟩

end TexBuild.Table
