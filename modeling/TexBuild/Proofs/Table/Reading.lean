import TexBuild.Proofs.Table.Fuel
import TexBuild.Proofs.Table.Template

namespace TexBuild.Table

variable {environment : Environment} {fuel steps : Nat} {given names : Slot → String} {s s' : Slot}
  {spot : Spot} {path : List String} {value : Spot} {t text text' : String}

/-- A text without references is read as it is. -/
theorem textValue_of_plain (plain : hasReference t.toList = false) :
    textValue environment (fuel + 1) spot path t = .ok (⟨.word (.text t), path⟩ :: spot) := by
  rw [textValue, plain]
  rfl

theorem eq_of_textValue_of_plain (plain : hasReference t.toList = false)
    (found : textValue environment fuel spot path t = .ok value) :
    value = ⟨.word (.text t), path⟩ :: spot := by
  cases fuel with
  | zero => cases found
  | succ fuel =>
    rw [textValue_of_plain plain] at found
    exact (Except.ok.inj found).symm

theorem textValue_of_piece {piece : Piece} (read : piece? t.toList = some piece)
    (other : ∀ cs, piece ≠ .plain cs) :
    textValue environment (fuel + 1) spot path t = pieceValue environment fuel spot path piece := by
  have references : hasReference t.toList = true := by
    cases plain : hasReference t.toList with
    | true => rfl
    | false =>
      rw [piece?_of_plain plain] at read
      exact absurd (Option.some.inj read).symm (other _)
  rw [textValue, references]
  simp only [Bool.not_true, Bool.false_eq_true, if_false, read]

theorem checkValue_of_textValue (found : textValue environment fuel spot path t = .ok value) :
    Word.checkValue (.text t) = .ok () := by
  have wellFormed : (piece? t.toList).isSome = true := by
    cases fuel with
    | zero => cases found
    | succ fuel =>
      cases plain : hasReference t.toList with
      | false => rw [piece?_of_plain plain]; rfl
      | true =>
        rw [textValue, plain] at found
        cases read : piece? t.toList with
        | none =>
          rw [read] at found
          cases found
        | some piece => rfl
  exact if_pos wellFormed

/-- The table as the outermost value. -/
def top (given : Slot → String) : Spot :=
  [⟨givenTable given, []⟩]

/-- What is given for a place is read as a text of the table itself: it has this text there, with
references in it resolved. The mark of what is still to be given is not read. -/
def Reads (environment : Environment) (given : Slot → String) (s : Slot) (text : String) : Prop :=
  given s ≠ missingMark ∧ ∃ fuel value,
    textValue environment fuel (top given) [s.name] (given s) = .ok value ∧
      value.node.inText? = some text

/-- What is given for a place is read so within some steps, and is a single word there. -/
def ReadsWithin (environment : Environment) (given : Slot → String) (steps : Nat) (s : Slot)
    (text : String) : Prop :=
  given s ≠ missingMark ∧ ∃ value w,
    textValue environment steps (top given) [s.name] (given s) = .ok value ∧
      value.node = .word w ∧ w.inText? = some text

/-- A text that stands for itself: it has no reference, and is not the mark of what is missing. -/
def IsLiteral (text : String) : Prop :=
  hasReference text.toList = false ∧ text ≠ missingMark

/-- What is given for a place is read in one way only. -/
theorem Reads.unique (reads : Reads environment given s text)
    (again : Reads environment given s text') : text = text' := by
  obtain ⟨-, _, value, found, shown⟩ := reads
  obtain ⟨-, _, value', found', shown'⟩ := again
  cases textValue_unique found found'
  exact Option.some.inj (shown.symm.trans shown')

theorem ReadsWithin.reads (within : ReadsWithin environment given steps s text) :
    Reads environment given s text := by
  obtain ⟨present, value, w, found, here, shown⟩ := within
  exact ⟨present, steps, value, found, by rw [here]; exact shown⟩

theorem ReadsWithin.mono (within : ReadsWithin environment given steps s text) {more : Nat}
    (less : steps ≤ more) : ReadsWithin environment given more s text := by
  obtain ⟨present, value, w, found, whole⟩ := within
  exact ⟨present, value, w, textValue_of_le less found, whole⟩

/-- A text without references is read as it stands. -/
theorem reads_iff_of_plain (plain : hasReference (given s).toList = false) :
    Reads environment given s text ↔ given s ≠ missingMark ∧ text = given s := by
  constructor
  · rintro ⟨present, _, value, found, shown⟩
    cases eq_of_textValue_of_plain plain found
    exact ⟨present, (Option.some.inj shown).symm⟩
  · rintro ⟨present, rfl⟩
    exact ⟨present, 1, _, textValue_of_plain plain, rfl⟩

theorem readsWithin_of_isLiteral (literal : IsLiteral (given s)) :
    ReadsWithin environment given 1 s (given s) :=
  ⟨literal.2, _, _, textValue_of_plain literal.1, rfl, rfl⟩

theorem keysText_name :
    keysText environment (fuel + 3) spot path [.plain s.name.toList] = .ok s.name := by
  cases s <;> rfl

theorem member?_top :
    Spot.member? (top given) s.name = .ok (some ⟨.word (.text (given s)), [s.name]⟩) := by
  cases s <;> rfl

theorem descend_top :
    descend environment (fuel + 2) true (top given) [s.name] =
      if given s = missingMark then .error .missingValue
      else (textValue environment (fuel + 1) (top given) [s.name] (given s)).map some := by
  rw [descend, member?_top]
  by_cases missing : given s = missingMark
  · rw [if_pos missing]
    exact if_pos ⟨missing, rfl⟩
  · rw [if_neg missing]
    refine (if_neg (not_and_of_not_left _ missing)).trans ?_
    cases textValue environment (fuel + 1) (top given) [s.name] (given s) <;> rfl

/-- A reference to a place leads to what is read there, from anywhere in the table. -/
theorem follow_name (outer : spot.base 0 = top given) :
    follow environment (fuel + 3) true spot s.name =
      if given s = missingMark then .error .missingValue
      else (textValue environment (fuel + 1) (top given) [s.name] (given s)).map some := by
  have points : (s.name.toList.takeWhile (· == '.')).length = 0 := by cases s <;> rfl
  rw [← descend_top, follow]
  simp only [points, outer]
  cases s <;> rfl

theorem reads_of_pieceValue (outer : spot.base 0 = top given)
    (found : pieceValue environment fuel spot path s.piece = .ok value)
    (shown : value.node.inText? = some text) : Reads environment given s text := by
  have found := pieceValue_of_le (Nat.le_add_right fuel 4) found
  rw [Slot.piece, pieceValue, keysText_name] at found
  obtain ⟨_, ⟨⟩, found⟩ := bind_eq_ok_iff.mp found
  obtain ⟨target?, followed, found⟩ := bind_eq_ok_iff.mp found
  rw [follow_name outer] at followed
  split at followed
  · cases followed
  · next present =>
    cases valued : textValue environment (fuel + 1) (top given) [s.name] (given s) with
    | error e =>
      rw [valued] at followed
      cases followed
    | ok target =>
      rw [valued] at followed
      cases followed
      refine ⟨present, _, _, valued, ?_⟩
      dsimp only at found
      split at found
      · cases found
      · cases found
        exact shown

theorem pieceValue_of_textValue {w : Word} (outer : spot.base 0 = top given)
    (present : given s ≠ missingMark)
    (found : textValue environment (fuel + 1) (top given) [s.name] (given s) = .ok value)
    (here : value.node = .word w) :
    pieceValue environment (fuel + 4) spot path s.piece = .ok value := by
  have single : value.isHolder = false := by
    rw [Spot.isHolder, here]
  rw [Slot.piece, pieceValue, keysText_name]
  refine bind_eq_ok_iff.mpr ⟨_, rfl, bind_eq_ok_iff.mpr ⟨some value, ?_, ?_⟩⟩
  · rw [follow_name outer, if_neg present, found]
    rfl
  · dsimp only
    rw [single]
    rfl

/-- A reference to a place has the word that is read there, within three steps more. -/
theorem ReadsWithin.exists_pieceValue (outer : spot.base 0 = top given)
    (within : ReadsWithin environment given steps s text) (enough : steps + 3 ≤ fuel) :
    ∃ value, pieceValue environment fuel spot path s.piece = .ok value ∧
      value.node.inText? = some text := by
  cases steps with
  | zero =>
    obtain ⟨-, value, w, found, -⟩ := within
    cases found
  | succ steps =>
    obtain ⟨fuel, rfl⟩ := Nat.exists_eq_add_of_le' (show 4 ≤ fuel by omega)
    obtain ⟨present, value, w, found, here, shown⟩ :=
      within.mono (show steps + 1 ≤ fuel + 1 by omega)
    exact ⟨value, pieceValue_of_textValue outer present found here, by rw [here]; exact shown⟩

/-- What is given for a place as a mere reference to another is read as that one. -/
theorem ReadsWithin.of_reference (refers : piece? (given s).toList = some s'.piece)
    (within : ReadsWithin environment given (steps + 1) s' text) :
    ReadsWithin environment given (steps + 5) s text := by
  obtain ⟨present, value, w, found, here, shown⟩ := within
  refine ⟨?_, value, w, ?_, here, shown⟩
  · intro missing
    rw [missing, piece?_of_plain (by decide)] at refers
    cases refers
  · rw [textValue_of_piece refers (fun _ => nofun)]
    exact pieceValue_of_textValue rfl present found here

/-- The names are what is given as far as that is read at all. -/
def Agrees (environment : Environment) (given names : Slot → String) : Prop :=
  ∀ s text, Reads environment given s text → names s = text

/-- There are names with which all that can be read agrees. -/
theorem exists_agrees (environment : Environment) (given : Slot → String) :
    ∃ names, Agrees environment given names := by
  have each (s : Slot) : ∃ name, ∀ text, Reads environment given s text → name = text := by
    by_cases read : ∃ text, Reads environment given s text
    · obtain ⟨name, reads⟩ := read
      exact ⟨name, fun text again => reads.unique again⟩
    · exact ⟨"", fun text reads => absurd ⟨text, reads⟩ read⟩
  exact ⟨fun s => (each s).choose, fun s => (each s).choose_spec⟩

end TexBuild.Table
