import TexBuild.Proofs.Text.Pieces
import TexBuild.Text.Utf8

namespace TexBuild.Utf8

/-- The encoding of a character begins with these octets and goes on after them. -/
def Begins (piece : List UInt8) : Prop :=
  ∃ c more, more ≠ [] ∧ encodeChar c = piece ++ more

/-- Octets that encode no character, in front of others: one alone, or as many as an encoding may
begin with. -/
structure IsBroken (piece rest : List UInt8) : Prop where
  begins : (∃ b, piece = [b]) ∨ piece ≠ [] ∧ Begins piece
  longest : ∀ b more, rest = b :: more → ¬ Begins (piece ++ [b])
  noChar : ∀ c, ¬ encodeChar c <+: piece ++ rest

/-- Octets are read as a text: each character from its encoding, and a replacement for each broken
piece between. -/
inductive Reads : List UInt8 → List Char → Prop
  | nil : Reads [] []
  | char {bs cs} (c) : Reads bs cs → Reads (encodeChar c ++ bs) (c :: cs)
  | broken {piece bs cs} : IsBroken piece bs → Reads bs cs →
      Reads (piece ++ bs) (replacement :: cs)

/-- An octet that is an ASCII character. -/
def isAscii (b : UInt8) : Bool :=
  b.toNat < 0x80

/-- An octet that goes on with a character. -/
def IsTail (b : UInt8) : Prop :=
  0x80 ≤ b.toNat ∧ b.toNat ≤ 0xBF

/-- The number of a character whose leading bits are `value` and whose other octets follow. -/
def continued (value : Nat) (bs : List UInt8) : Nat :=
  bs.foldl (fun v b => 64 * v + (b.toNat - 0x80)) value

namespace State

/-- The text that a decoder makes of octets from a state on. -/
def read : State → List UInt8 → List Char
  | s, [] => s.close
  | s, b :: bs => (s.step b).1 ++ read (s.step b).2 bs

/-- No ASCII character can go on with a character under way. -/
def IsHigh : State → Prop
  | ready => True
  | within _ _ low _ => 0x80 ≤ low.toNat

/-- Octets that a decoder in this state has read of a character, and whatever it waits for behind
them, are the encoding of that character. -/
def Expects (held : List UInt8) : State → Prop
  | ready => held = []
  | within value more low high => held ≠ [] ∧ low ≤ high ∧
      ∀ b rest, low ≤ b → b ≤ high → (∀ d ∈ rest, IsTail d) → rest.length = more →
        encodeChar (Char.ofNat (continued value (b :: rest))) = held ++ b :: rest

end State

variable {s : State} {b : UInt8} {bs rest held piece : List UInt8} {c c' : Char}
  {cs cs' : List Char}

theorem decode_eq_read (bs : List UInt8) : decode bs = State.ready.read bs := by
  have fed (bs : List UInt8) (done : List Char) (s : State) :
      let d := bs.foldl State.feed (done, s)
      (d.2.close.reverse ++ d.1).reverse = done.reverse ++ s.read bs := by
    induction bs generalizing done s with
    | nil => simp [State.read]
    | cons b bs ih => simp [State.read, State.feed, ih]
  simpa [decode] using fed bs [] .ready

@[simp] theorem read_nil : s.read [] = s.close := rfl

theorem read_cons : s.read (b :: bs) = (s.step b).1 ++ (s.step b).2.read bs := rfl

/-- Octets that are still to come, or a character under way, leave something. -/
theorem read_ne_nil (some : s ≠ .ready ∨ bs ≠ []) : s.read bs ≠ [] := by
  induction bs generalizing s with
  | nil =>
    cases s with
    | ready => simp at some
    | within => simp [State.close]
  | cons b bs ih =>
    rw [read_cons]
    intro empty
    obtain ⟨silent, later⟩ := List.append_eq_nil_iff.mp empty
    refine ih (.inl fun ready => ?_) later
    -- a step back to the start of a character is never silent
    revert silent ready
    have start : (State.start b).1 = [] → (State.start b).2 ≠ .ready := by
      unfold State.start State.opened
      grind
    cases s with
    | ready => exact start
    | within value more low high =>
      unfold State.step
      dsimp only
      split
      · cases more <;> simp
      · simp

section Encoding

theorem toNat_ofNat {n : Nat} (valid : n.isValidChar) : (Char.ofNat n).toNat = n := by
  rw [Char.ofNat, dif_pos valid]
  rfl

theorem toUInt8_eq {n : Nat} (same : n = b.toNat) : n.toUInt8 = b := by
  subst same
  simp

theorem encodeChar_one {a : UInt8} (ascii : isAscii a = true) :
    encodeChar (Char.ofNat a.toNat) = [a] := by
  have small : a.toNat < 0x80 := of_decide_eq_true ascii
  have valid : a.toNat.isValidChar := .inl (by omega)
  unfold encodeChar
  dsimp only
  rw [toNat_ofNat valid, if_pos small, toUInt8_eq rfl]

theorem encodeChar_two {a b : UInt8} (first : 0xC2 ≤ a.toNat ∧ a.toNat ≤ 0xDF)
    (second : IsTail b) :
    encodeChar (Char.ofNat (continued (a.toNat - 0xC0) [b])) = [a, b] := by
  unfold IsTail at second
  simp only [continued, List.foldl_cons, List.foldl_nil]
  have valid : Nat.isValidChar (64 * (a.toNat - 0xC0) + (b.toNat - 0x80)) := .inl (by omega)
  unfold encodeChar
  dsimp only
  rw [toNat_ofNat valid, if_neg (by omega), if_pos (by omega), toUInt8_eq (b := a) (by omega),
    toUInt8_eq (b := b) (by omega)]

theorem encodeChar_three {a b d : UInt8} (first : 0xE0 ≤ a.toNat ∧ a.toNat ≤ 0xEF)
    (second : IsTail b) (third : IsTail d) (long : a.toNat = 0xE0 → 0xA0 ≤ b.toNat)
    (scalar : a.toNat = 0xED → b.toNat ≤ 0x9F) :
    encodeChar (Char.ofNat (continued (a.toNat - 0xE0) [b, d])) = [a, b, d] := by
  unfold IsTail at second third
  simp only [continued, List.foldl_cons, List.foldl_nil]
  have valid : Nat.isValidChar
      (64 * (64 * (a.toNat - 0xE0) + (b.toNat - 0x80)) + (d.toNat - 0x80)) := by
    unfold Nat.isValidChar
    omega
  unfold encodeChar
  dsimp only
  rw [toNat_ofNat valid, if_neg (by omega), if_neg (by omega), if_pos (by omega),
    toUInt8_eq (b := a) (by omega), toUInt8_eq (b := b) (by omega), toUInt8_eq (b := d) (by omega)]

theorem encodeChar_four {a b d e : UInt8} (first : 0xF0 ≤ a.toNat ∧ a.toNat ≤ 0xF4)
    (second : IsTail b) (third : IsTail d) (fourth : IsTail e)
    (long : a.toNat = 0xF0 → 0x90 ≤ b.toNat) (scalar : a.toNat = 0xF4 → b.toNat ≤ 0x8F) :
    encodeChar (Char.ofNat (continued (a.toNat - 0xF0) [b, d, e])) = [a, b, d, e] := by
  unfold IsTail at second third fourth
  simp only [continued, List.foldl_cons, List.foldl_nil]
  have valid : Nat.isValidChar (64 * (64 * (64 * (a.toNat - 0xF0) + (b.toNat - 0x80)) +
      (d.toNat - 0x80)) + (e.toNat - 0x80)) := by
    unfold Nat.isValidChar
    omega
  unfold encodeChar
  dsimp only
  rw [toNat_ofNat valid, if_neg (by omega), if_neg (by omega), if_neg (by omega),
    toUInt8_eq (b := a) (by omega), toUInt8_eq (b := b) (by omega), toUInt8_eq (b := d) (by omega),
    toUInt8_eq (b := e) (by omega)]

theorem expects_two {a : UInt8} (first : 0xC2 ≤ a.toNat ∧ a.toNat ≤ 0xDF) :
    (State.within (a.toNat - 0xC0) 0 0x80 0xBF).Expects [a] := by
  refine ⟨List.cons_ne_nil _ _, by decide, fun b rest above below tails length => ?_⟩
  rw [UInt8.le_iff_toNat_le] at above below
  obtain rfl := List.length_eq_zero_iff.mp length
  exact encodeChar_two first ⟨above, below⟩

theorem expects_three {a low high : UInt8} (first : 0xE0 ≤ a.toNat ∧ a.toNat ≤ 0xEF)
    (bounds : 0x80 ≤ low.toNat ∧ low ≤ high ∧ high.toNat ≤ 0xBF)
    (long : a.toNat = 0xE0 → 0xA0 ≤ low.toNat) (scalar : a.toNat = 0xED → high.toNat ≤ 0x9F) :
    (State.within (a.toNat - 0xE0) 1 low high).Expects [a] := by
  refine ⟨List.cons_ne_nil _ _, bounds.2.1, fun b rest above below tails length => ?_⟩
  rw [UInt8.le_iff_toNat_le] at above below
  obtain ⟨d, rfl⟩ := List.length_eq_one_iff.mp length
  have third := tails d (.head _)
  exact encodeChar_three first ⟨by omega, by omega⟩ third (by omega) (by omega)

theorem expects_four {a low high : UInt8} (first : 0xF0 ≤ a.toNat ∧ a.toNat ≤ 0xF4)
    (bounds : 0x80 ≤ low.toNat ∧ low ≤ high ∧ high.toNat ≤ 0xBF)
    (long : a.toNat = 0xF0 → 0x90 ≤ low.toNat) (scalar : a.toNat = 0xF4 → high.toNat ≤ 0x8F) :
    (State.within (a.toNat - 0xF0) 2 low high).Expects [a] := by
  refine ⟨List.cons_ne_nil _ _, bounds.2.1, fun b rest above below tails length => ?_⟩
  rw [UInt8.le_iff_toNat_le] at above below
  rcases rest with _ | ⟨d, _ | ⟨e, _ | _⟩⟩ <;> simp only [List.length_cons, List.length_nil] at length
  · omega
  · omega
  · have third := tails d (.head _)
    have fourth := tails e (.tail _ (.head _))
    exact encodeChar_four first ⟨by omega, by omega⟩ third fourth (by omega) (by omega)
  · omega

/-- An octet that opens a character can be completed to the encoding of one. -/
theorem expects_opened (opened : State.opened b = some s) : s.Expects [b] := by
  unfold State.opened at opened
  dsimp only at opened
  -- the cases in the order of the first octets, each with its bounds on the second one
  split at opened
  · cases opened
    exact expects_two ‹_›
  split at opened
  · next e0 =>
    cases opened
    have found : (State.within (b.toNat - 0xE0) 1 0xA0 0xBF).Expects [b] :=
      expects_three (by omega) (by decide) (fun _ => by decide) (by omega)
    rwa [e0] at found
  split at opened
  · next ed =>
    cases opened
    have found : (State.within (b.toNat - 0xE0) 1 0x80 0x9F).Expects [b] :=
      expects_three (by omega) (by decide) (by omega) (fun _ => by decide)
    rwa [ed] at found
  split at opened
  · cases opened
    exact expects_three (by omega) (by decide) (by omega) (by omega)
  split at opened
  · next f0 =>
    cases opened
    have found : (State.within (b.toNat - 0xF0) 2 0x90 0xBF).Expects [b] :=
      expects_four (by omega) (by decide) (fun _ => by decide) (by omega)
    rwa [f0] at found
  split at opened
  · cases opened
    exact expects_four (by omega) (by decide) (by omega) (by omega)
  split at opened
  · next f4 =>
    cases opened
    have found : (State.within (b.toNat - 0xF0) 2 0x80 0x8F).Expects [b] :=
      expects_four (by omega) (by decide) (by omega) (fun _ => by decide)
    rwa [f4] at found
  · cases opened

end Encoding

section Ascii

theorem isHigh_opened (opened : State.opened b = some s) : s.IsHigh := by
  unfold State.opened at opened
  grind [State.IsHigh]

theorem isHigh_start : (State.start b).2.IsHigh := by
  unfold State.start
  split
  · trivial
  · split
    · exact isHigh_opened ‹_›
    · trivial

theorem State.IsHigh.step (high : s.IsHigh) (b : UInt8) : (s.step b).2.IsHigh := by
  cases s with
  | ready => exact isHigh_start
  | within value more low up =>
    unfold State.step
    dsimp only
    split
    · cases more with
      | zero => trivial
      | succ more => exact Nat.le_refl _
    · exact isHigh_start

theorem start_of_isAscii (ascii : isAscii b = true) :
    State.start b = ([Char.ofNat b.toNat], .ready) :=
  if_pos (of_decide_eq_true ascii)

theorem State.IsHigh.step_of_isAscii (high : s.IsHigh) (ascii : isAscii b = true) :
    s.step b = (s.close ++ [Char.ofNat b.toNat], .ready) := by
  cases s with
  | ready => exact start_of_isAscii ascii
  | within value more low up =>
    have below : ¬ (low ≤ b ∧ b ≤ up) := fun inside =>
      Nat.not_lt.mpr ((Nat.le_trans high) (UInt8.le_iff_toNat_le.mp inside.1))
        (of_decide_eq_true ascii)
    unfold State.step
    dsimp only
    rw [if_neg below, start_of_isAscii ascii]
    rfl

theorem State.IsHigh.read_append (high : s.IsHigh) (ascii : isAscii b = true)
    (a rest : List UInt8) :
    s.read (a ++ b :: rest) = s.read a ++ Char.ofNat b.toNat :: State.ready.read rest := by
  induction a generalizing s with
  | nil => rw [List.nil_append, read_cons, high.step_of_isAscii ascii]; simp
  | cons d a ih => rw [List.cons_append, read_cons, read_cons, ih (high.step d), List.append_assoc]

/-- Whatever stands before an ASCII character, it is read as itself. -/
theorem decode_append_ascii (ascii : isAscii b = true) (a rest : List UInt8) :
    decode (a ++ b :: rest) = decode a ++ Char.ofNat b.toNat :: decode rest := by
  simp only [decode_eq_read]
  exact State.IsHigh.read_append (s := .ready) trivial ascii a rest

end Ascii

section Decoding

theorem continued_cons (value : Nat) (b : UInt8) (bs : List UInt8) :
    continued value (b :: bs) = continued (continued value [b]) bs := by
  simp only [continued, List.foldl_cons, List.foldl_nil]

theorem step_last {value : Nat} {low high : UInt8} (fits : low ≤ b ∧ b ≤ high) :
    (State.within value 0 low high).step b = ([Char.ofNat (continued value [b])], .ready) :=
  if_pos fits

theorem step_more {value more : Nat} {low high : UInt8} (fits : low ≤ b ∧ b ≤ high) :
    (State.within value (more + 1) low high).step b =
      ([], .within (continued value [b]) more 0x80 0xBF) :=
  if_pos fits

/-- An octet that does not go on with a character is read as a first one. -/
theorem step_misfit {value more : Nat} {low high : UInt8} (other : ¬ (low ≤ b ∧ b ≤ high)) :
    (State.within value more low high).step b =
      (replacement :: (State.start b).1, (State.start b).2) :=
  if_neg other

theorem start_of_opened (opened : State.opened b = some s) : State.start b = ([], s) := by
  have high : ¬ b.toNat < 0x80 := by
    intro low
    unfold State.opened at opened
    grind
  unfold State.start
  rw [if_neg high, opened]

theorem fits_of_isTail (tail : IsTail b) : 0x80 ≤ b ∧ b ≤ 0xBF :=
  ⟨UInt8.le_iff_toNat_le.mpr tail.1, UInt8.le_iff_toNat_le.mpr tail.2⟩

theorem read_two {a b : UInt8} (first : 0xC2 ≤ a.toNat ∧ a.toNat ≤ 0xDF) (second : IsTail b)
    (bs : List UInt8) :
    State.ready.read (a :: b :: bs) =
      Char.ofNat (continued (a.toNat - 0xC0) [b]) :: State.ready.read bs := by
  have opened : State.opened a = some (.within (a.toNat - 0xC0) 0 0x80 0xBF) := if_pos first
  rw [read_cons, State.step, start_of_opened opened, read_cons, step_last (fits_of_isTail second)]
  rfl

theorem read_three {a b d : UInt8} (first : 0xE0 ≤ a.toNat ∧ a.toNat ≤ 0xEF)
    (second : IsTail b) (third : IsTail d) (long : a.toNat = 0xE0 → 0xA0 ≤ b.toNat)
    (scalar : a.toNat = 0xED → b.toNat ≤ 0x9F) (bs : List UInt8) :
    State.ready.read (a :: b :: d :: bs) =
      Char.ofNat (continued (a.toNat - 0xE0) [b, d]) :: State.ready.read bs := by
  have opens : ∃ low high, State.opened a = some (.within (a.toNat - 0xE0) 1 low high) ∧
      low ≤ b ∧ b ≤ high := by
    obtain ⟨lower, upper⟩ := fits_of_isTail second
    unfold State.opened
    dsimp only
    rw [if_neg (by omega)]
    by_cases e0 : a.toNat = 0xE0
    · rw [if_pos e0, e0]
      exact ⟨_, _, rfl, UInt8.le_iff_toNat_le.mpr (long e0), upper⟩
    rw [if_neg e0]
    by_cases ed : a.toNat = 0xED
    · rw [if_pos ed, ed]
      exact ⟨_, _, rfl, lower, UInt8.le_iff_toNat_le.mpr (scalar ed)⟩
    rw [if_neg ed, if_pos (by omega)]
    exact ⟨_, _, rfl, lower, upper⟩
  obtain ⟨low, high, opened, fits⟩ := opens
  rw [read_cons, State.step, start_of_opened opened, read_cons, step_more fits, read_cons,
    step_last (fits_of_isTail third), continued_cons _ b [d]]
  rfl

theorem read_four {a b d e : UInt8} (first : 0xF0 ≤ a.toNat ∧ a.toNat ≤ 0xF4)
    (second : IsTail b) (third : IsTail d) (fourth : IsTail e)
    (long : a.toNat = 0xF0 → 0x90 ≤ b.toNat) (scalar : a.toNat = 0xF4 → b.toNat ≤ 0x8F)
    (bs : List UInt8) :
    State.ready.read (a :: b :: d :: e :: bs) =
      Char.ofNat (continued (a.toNat - 0xF0) [b, d, e]) :: State.ready.read bs := by
  have opens : ∃ low high, State.opened a = some (.within (a.toNat - 0xF0) 2 low high) ∧
      low ≤ b ∧ b ≤ high := by
    obtain ⟨lower, upper⟩ := fits_of_isTail second
    unfold State.opened
    dsimp only
    rw [if_neg (by omega), if_neg (by omega), if_neg (by omega), if_neg (by omega)]
    by_cases f0 : a.toNat = 0xF0
    · rw [if_pos f0, f0]
      exact ⟨_, _, rfl, UInt8.le_iff_toNat_le.mpr (long f0), upper⟩
    rw [if_neg f0]
    by_cases f4 : a.toNat = 0xF4
    · rw [if_neg (by omega), if_pos f4, f4]
      exact ⟨_, _, rfl, lower, UInt8.le_iff_toNat_le.mpr (scalar f4)⟩
    rw [if_pos (by omega)]
    exact ⟨_, _, rfl, lower, upper⟩
  obtain ⟨low, high, opened, fits⟩ := opens
  rw [read_cons, State.step, start_of_opened opened, read_cons, step_more fits, read_cons,
    step_more (fits_of_isTail third), read_cons, step_last (fits_of_isTail fourth),
    continued_cons _ b [d, e], continued_cons _ d [e]]
  rfl

theorem toNat_toUInt8 {n : Nat} (octet : n < 256) : n.toUInt8.toNat = n := by
  simp [Nat.mod_eq_of_lt octet]

theorem ofNat_eq {n : Nat} (same : n = c.toNat) : Char.ofNat n = c := by
  rw [same, Char.ofNat_toNat]

/-- The encoding of a character is read as this character. -/
theorem read_encodeChar (c : Char) (bs : List UInt8) :
    State.ready.read (encodeChar c ++ bs) = c :: State.ready.read bs := by
  have valid : c.toNat < 0xD800 ∨ 0xDFFF < c.toNat ∧ c.toNat < 0x110000 := c.valid
  unfold encodeChar
  dsimp only
  generalize number : c.toNat = n at valid
  split
  · have octet : n.toUInt8.toNat = n := toNat_toUInt8 (by omega)
    have ascii : isAscii n.toUInt8 = true := decide_eq_true (by omega)
    rw [List.singleton_append, read_cons, State.step, start_of_isAscii ascii, octet,
      ofNat_eq number.symm]
    rfl
  split
  · have first : (0xC0 + n / 64).toUInt8.toNat = 0xC0 + n / 64 := toNat_toUInt8 (by omega)
    have second : (0x80 + n % 64).toUInt8.toNat = 0x80 + n % 64 := toNat_toUInt8 (by omega)
    rw [List.cons_append, List.cons_append, List.nil_append, read_two ⟨by omega, by omega⟩
      ⟨by omega, by omega⟩, ofNat_eq]
    simp only [continued, List.foldl_cons, List.foldl_nil]
    omega
  split
  · have first : (0xE0 + n / 4096).toUInt8.toNat = 0xE0 + n / 4096 := toNat_toUInt8 (by omega)
    have second : (0x80 + n / 64 % 64).toUInt8.toNat = 0x80 + n / 64 % 64 :=
      toNat_toUInt8 (by omega)
    have third : (0x80 + n % 64).toUInt8.toNat = 0x80 + n % 64 := toNat_toUInt8 (by omega)
    rw [List.cons_append, List.cons_append, List.cons_append, List.nil_append,
      read_three ⟨by omega, by omega⟩ ⟨by omega, by omega⟩ ⟨by omega, by omega⟩ (by omega)
        (by omega), ofNat_eq]
    simp only [continued, List.foldl_cons, List.foldl_nil]
    omega
  · have first : (0xF0 + n / 262144).toUInt8.toNat = 0xF0 + n / 262144 := toNat_toUInt8 (by omega)
    have second : (0x80 + n / 4096 % 64).toUInt8.toNat = 0x80 + n / 4096 % 64 :=
      toNat_toUInt8 (by omega)
    have third : (0x80 + n / 64 % 64).toUInt8.toNat = 0x80 + n / 64 % 64 :=
      toNat_toUInt8 (by omega)
    have fourth : (0x80 + n % 64).toUInt8.toNat = 0x80 + n % 64 := toNat_toUInt8 (by omega)
    rw [List.cons_append, List.cons_append, List.cons_append, List.cons_append, List.nil_append,
      read_four ⟨by omega, by omega⟩ ⟨by omega, by omega⟩ ⟨by omega, by omega⟩ ⟨by omega, by omega⟩
        (by omega) (by omega), ofNat_eq]
    simp only [continued, List.foldl_cons, List.foldl_nil]
    omega

/-- Decoding undoes encoding. -/
theorem decode_encode (cs : List Char) : decode (encode cs) = cs := by
  rw [decode_eq_read]
  induction cs with
  | nil => rfl
  | cons c cs ih => rw [encode, List.flatMap_cons, read_encodeChar, ← encode, ih]

end Decoding

section Pieces

/-- A decoder that stands in this state has read these octets of a character and nothing of it
has come out. -/
structure State.Holds (s : State) (held : List UInt8) : Prop where
  reads : ∀ bs, State.ready.read (held ++ bs) = s.read bs
  expects : s.Expects held

variable {value more : Nat} {low high : UInt8}

theorem holds_ready : State.ready.Holds [] :=
  ⟨fun _ => rfl, rfl⟩

theorem holds_of_opened (opened : State.opened b = some s) : s.Holds [b] := by
  refine ⟨fun bs => ?_, expects_opened opened⟩
  rw [List.singleton_append, read_cons, State.step, start_of_opened opened]
  rfl

theorem State.Holds.goesOn (holds : (State.within value (more + 1) low high).Holds held)
    (fits : low ≤ b ∧ b ≤ high) :
    (State.within (continued value [b]) more 0x80 0xBF).Holds (held ++ [b]) := by
  obtain ⟨reads, some, -, completes⟩ := holds
  refine ⟨fun bs => ?_, by simp, by decide, fun d rest above below tails length => ?_⟩
  · rw [List.append_assoc, List.singleton_append, reads, read_cons, step_more fits]
    rfl
  · have tail : IsTail d := ⟨UInt8.le_iff_toNat_le.mp above, UInt8.le_iff_toNat_le.mp below⟩
    have whole := completes b (d :: rest) fits.1 fits.2
      (List.forall_mem_cons.mpr ⟨tail, tails⟩) (congrArg (· + 1) length)
    rw [List.append_assoc, List.singleton_append, ← whole, continued_cons value b (d :: rest)]

theorem State.Holds.last (holds : (State.within value 0 low high).Holds held)
    (fits : low ≤ b ∧ b ≤ high) :
    encodeChar (Char.ofNat (continued value [b])) = held ++ [b] :=
  holds.expects.2.2 b [] fits.1 fits.2 nofun rfl

theorem State.Holds.begins (holds : (State.within value more low high).Holds held) :
    Begins held := by
  obtain ⟨-, -, ordered, completes⟩ := holds
  refine ⟨_, low :: List.replicate more 0x80, List.cons_ne_nil _ _,
    completes low _ (UInt8.le_refl _) ordered (fun d among => ?_) List.length_replicate⟩
  rw [List.eq_of_mem_replicate among]
  exact ⟨by decide, by decide⟩

theorem encodeChar_ne_nil : encodeChar c ≠ [] := by
  intro empty
  have read := read_encodeChar c []
  rw [empty] at read
  cases read

/-- No encoding of a character goes on with that of another one. -/
theorem eq_nil_of_encodeChar_append (longer : encodeChar c' = encodeChar c ++ rest) :
    rest = [] := by
  refine Classical.byContradiction fun some => ?_
  have read := read_encodeChar c' []
  rw [longer, List.append_nil, read_encodeChar] at read
  exact read_ne_nil (.inr some) (List.cons.inj read).2

theorem read_misfit (other : ¬ (low ≤ b ∧ b ≤ high)) (bs : List UInt8) :
    (State.within value more low high).read (b :: bs) =
      replacement :: State.ready.read (b :: bs) := by
  rw [read_cons, step_misfit other]
  rfl

/-- A character under way is broken off where the octets end or the next one does not go on
with it. -/
theorem isBroken_of_holds (holds : (State.within value more low high).Holds held)
    (stops : ∀ b bs, rest = b :: bs → ¬ (low ≤ b ∧ b ≤ high)) : IsBroken held rest := by
  have further {c b bs more} (next : rest = b :: bs) : encodeChar c ≠ held ++ b :: more := by
    intro whole
    have read := read_encodeChar c []
    rw [List.append_nil, whole, holds.reads, read_misfit (stops b bs next)] at read
    exact read_ne_nil (.inr (List.cons_ne_nil _ _)) (List.cons.inj read).2
  have short {c more} : held ≠ encodeChar c ++ more := by
    intro same
    obtain ⟨c', last, some, whole⟩ := holds.begins
    rw [same, List.append_assoc] at whole
    exact some (List.append_eq_nil_iff.mp (eq_nil_of_encodeChar_append whole)).2
  refine ⟨.inr ⟨holds.expects.1, holds.begins⟩, fun b bs next begins => ?_, fun c begins => ?_⟩
  · obtain ⟨c, more, -, whole⟩ := begins
    rw [List.append_assoc] at whole
    exact further next whole
  · obtain ⟨after, whole⟩ := begins
    obtain ⟨more, same, -⟩ | ⟨more, same, next⟩ := List.append_eq_append_iff.mp whole
    · exact short same
    · cases more with
      | nil =>
        have same : held = encodeChar c ++ [] := by simpa using same.symm
        exact short same
      | cons b more => exact further next same

theorem isBroken_of_start (silent : isAscii b = false) (closed : State.opened b = none) :
    IsBroken [b] rest := by
  have read (bs : List UInt8) :
      State.ready.read (b :: bs) = replacement :: State.ready.read bs := by
    rw [read_cons, State.step, State.start, if_neg (of_decide_eq_false silent), closed]
    rfl
  have whole {c more} (same : encodeChar c = b :: more) : more = [] ∧ c = replacement := by
    have both := read_encodeChar c []
    rw [List.append_nil, same, read] at both
    obtain ⟨rfl, none⟩ := List.cons.inj both
    exact ⟨Classical.byContradiction fun some => read_ne_nil (.inr some) none, rfl⟩
  refine ⟨.inl ⟨b, rfl⟩, fun d more next begins => ?_, fun c begins => ?_⟩
  · obtain ⟨c, more, -, same⟩ := begins
    exact List.cons_ne_nil _ _ (whole same).1
  · obtain ⟨after, same⟩ := begins
    cases spelled : encodeChar c with
    | nil => exact encodeChar_ne_nil spelled
    | cons d more =>
      rw [spelled] at same
      cases same
      obtain ⟨rfl, rfl⟩ := whole spelled
      have length : (encodeChar replacement).length = 1 := congrArg List.length spelled
      exact absurd length (by decide)

theorem reads_of_holds (holds : s.Holds held) (bs : List UInt8) : Reads (held ++ bs) (s.read bs) := by
  induction bs generalizing s held with
  | nil =>
    cases s with
    | ready =>
      obtain rfl : held = [] := holds.expects
      exact .nil
    | within => exact .broken (isBroken_of_holds holds nofun) .nil
  | cons b bs ih =>
    have first : Reads (b :: bs) (State.ready.read (b :: bs)) := by
      rw [read_cons, State.step]
      cases ascii : isAscii b with
      | true =>
        rw [start_of_isAscii ascii]
        have rest := Reads.char (Char.ofNat b.toNat) (ih holds_ready)
        rwa [encodeChar_one ascii] at rest
      | false =>
        cases opened : State.opened b with
        | some s' =>
          rw [start_of_opened opened]
          exact ih (holds_of_opened opened)
        | none =>
          rw [State.start, if_neg (of_decide_eq_false ascii), opened]
          exact .broken (isBroken_of_start ascii opened) (ih holds_ready)
    cases s with
    | ready =>
      obtain rfl : held = [] := holds.expects
      exact first
    | within value more low high =>
      by_cases fits : low ≤ b ∧ b ≤ high
      · cases more with
        | zero =>
          have rest := Reads.char (Char.ofNat (continued value [b])) (ih holds_ready)
          rw [holds.last fits, List.append_assoc] at rest
          rw [read_cons, step_last fits]
          exact rest
        | succ more =>
          have rest := ih (holds.goesOn fits)
          rw [List.append_assoc] at rest
          rw [read_cons, step_more fits]
          exact rest
      · rw [read_misfit fits]
        refine .broken (isBroken_of_holds holds fun d more next => ?_) first
        cases next
        exact fits

theorem IsBroken.eq_of_append {piece' rest' : List UInt8} (broken : IsBroken piece rest)
    (broken' : IsBroken piece' rest') (same : piece ++ rest = piece' ++ rest') :
    piece = piece' ∧ rest = rest' := by
  -- of two beginnings of the same octets neither can be longer
  have longer {piece rest piece' : List UInt8} {more} (broken : IsBroken piece rest)
      (some : piece ≠ []) (begins : (∃ b, piece' = [b]) ∨ piece' ≠ [] ∧ Begins piece')
      (parts : piece' = piece ++ more) (next : ∃ after, rest = more ++ after) : more = [] := by
    cases more with
    | nil => rfl
    | cons b more =>
      obtain ⟨after, next⟩ := next
      obtain ⟨d, single⟩ | ⟨-, c, last, goes, whole⟩ := begins
      · rw [single] at parts
        have length := congrArg List.length parts
        have positive := List.length_pos_iff.mpr some
        simp only [List.length_cons, List.length_nil, List.length_append] at length
        omega
      · refine absurd ⟨c, more ++ last, ?_, ?_⟩ (broken.longest b _ next)
        · exact List.append_ne_nil_of_right_ne_nil _ goes
        · rw [whole, parts]
          simp
  have nonempty {piece rest : List UInt8} (broken : IsBroken piece rest) : piece ≠ [] := by
    obtain ⟨b, rfl⟩ | ⟨some, -⟩ := broken.begins
    · exact List.cons_ne_nil _ _
    · exact some
  obtain ⟨more, parts, next⟩ | ⟨more, parts, next⟩ := List.append_eq_append_iff.mp same
  · obtain rfl := longer broken (nonempty broken) broken'.begins parts ⟨_, next⟩
    simp_all
  · obtain rfl := longer broken' (nonempty broken') broken.begins parts ⟨_, next⟩
    simp_all

/-- Octets are read in one way. -/
theorem Reads.unique (reads : Reads bs cs) (other : Reads bs cs') : cs = cs' := by
  induction reads generalizing cs' with
  | nil =>
    generalize empty : ([] : List UInt8) = bs at other
    cases other with
    | nil => rfl
    | char c => exact absurd (List.append_eq_nil_iff.mp empty.symm).1 encodeChar_ne_nil
    | broken broken =>
      obtain ⟨rfl, rfl⟩ := List.append_eq_nil_iff.mp empty.symm
      obtain ⟨b, none⟩ | ⟨some, -⟩ := broken.begins
      · cases none
      · exact absurd rfl some
  | @char bs cs c reads ih =>
    generalize whole : encodeChar c ++ bs = all at other
    cases other with
    | nil => exact absurd (List.append_eq_nil_iff.mp whole).1 encodeChar_ne_nil
    | @char bs' cs' c' reads' =>
      have first : c :: State.ready.read bs = c' :: State.ready.read bs' := by
        rw [← read_encodeChar, ← read_encodeChar, whole]
      obtain ⟨rfl, -⟩ := List.cons.inj first
      obtain rfl := List.append_cancel_left whole
      rw [ih reads']
    | broken broken reads' => exact absurd ⟨_, whole⟩ (broken.noChar c)
  | @broken piece bs cs broken reads ih =>
    generalize whole : piece ++ bs = all at other
    cases other with
    | nil =>
      obtain ⟨rfl, -⟩ := List.append_eq_nil_iff.mp whole
      obtain ⟨b, none⟩ | ⟨some, -⟩ := broken.begins
      · cases none
      · exact absurd rfl some
    | char c => exact absurd ⟨_, whole.symm⟩ (broken.noChar c)
    | broken broken' reads' =>
      obtain ⟨rfl, rfl⟩ := broken.eq_of_append broken' whole
      rw [ih reads']

/-- Decoding is this reading. -/
theorem reads_iff : Reads bs cs ↔ cs = decode bs := by
  have reads : Reads bs (decode bs) := by
    rw [decode_eq_read]
    exact reads_of_holds holds_ready bs
  exact ⟨fun other => other.unique reads, fun same => same ▸ reads⟩

end Pieces

section Structure

theorem encodeChar_of_ascii (ascii : c.toNat < 0x80) : encodeChar c = [c.toNat.toUInt8] :=
  if_pos ascii

/-- No character but the ASCII ones has an ASCII octet in its encoding. -/
theorem isAscii_of_mem_encodeChar (other : ¬ c.toNat < 0x80) (among : b ∈ encodeChar c) :
    isAscii b = false := by
  have valid : c.toNat < 0xD800 ∨ 0xDFFF < c.toNat ∧ c.toNat < 0x110000 := c.valid
  have high {n : Nat} (above : 0x80 ≤ n) (octet : n < 256) : isAscii n.toUInt8 = false := by
    refine decide_eq_false ?_
    rw [toNat_toUInt8 octet]
    omega
  unfold encodeChar at among
  dsimp only at among
  rw [if_neg other] at among
  split at among
  · simp only [List.mem_cons, List.not_mem_nil, or_false] at among
    obtain rfl | rfl := among <;> exact high (by omega) (by omega)
  split at among
  · simp only [List.mem_cons, List.not_mem_nil, or_false] at among
    obtain rfl | rfl | rfl := among <;> exact high (by omega) (by omega)
  · simp only [List.mem_cons, List.not_mem_nil, or_false] at among
    obtain rfl | rfl | rfl | rfl := among <;> exact high (by omega) (by omega)

/-- Octets that are given up hold no ASCII character. -/
theorem IsBroken.isAscii_eq_false (broken : IsBroken piece rest) (among : b ∈ piece) :
    isAscii b = false := by
  obtain ⟨d, rfl⟩ | ⟨some, c, more, goes, whole⟩ := broken.begins
  · obtain rfl := List.mem_singleton.mp among
    refine Bool.eq_false_iff.mpr fun ascii => broken.noChar (Char.ofNat b.toNat) ?_
    rw [encodeChar_one ascii]
    exact List.prefix_append _ _
  · refine isAscii_of_mem_encodeChar (c := c) (fun ascii => ?_) (whole ▸ List.mem_append_left _ among)
    -- an ASCII character has one octet, which leaves none to wait for
    rw [encodeChar_of_ascii ascii] at whole
    obtain ⟨none, -⟩ | ⟨-, none⟩ := List.singleton_eq_append_iff.mp whole
    · exact some none
    · exact goes none

theorem Reads.filter_ascii (reads : Reads bs cs) :
    cs.filter (·.toNat < 0x80) = (bs.filter isAscii).map fun b => Char.ofNat b.toNat := by
  have none {piece : List UInt8} (silent : ∀ b ∈ piece, isAscii b = false) :
      piece.filter isAscii = [] :=
    List.filter_eq_nil_iff.mpr fun b among => Bool.eq_false_iff.mp (silent b among)
  induction reads with
  | nil => rfl
  | char c reads ih =>
    rw [List.filter_append, List.map_append, ← ih]
    by_cases ascii : c.toNat < 0x80
    · have octet : c.toNat.toUInt8.toNat = c.toNat := toNat_toUInt8 (by omega)
      have found : isAscii c.toNat.toUInt8 = true := decide_eq_true (octet.symm ▸ ascii)
      rw [encodeChar_of_ascii ascii, List.filter_cons_of_pos (by simpa using ascii),
        List.filter_cons_of_pos found, List.map_cons, octet, Char.ofNat_toNat]
      rfl
    · rw [none fun b => isAscii_of_mem_encodeChar ascii,
        List.filter_cons_of_neg (by simpa using ascii)]
      rfl
  | broken broken reads ih =>
    rw [List.filter_append, none fun b => broken.isAscii_eq_false, List.nil_append, ← ih]
    exact List.filter_cons_of_neg (by decide)

/-- The ASCII characters of a decoded text are the ASCII octets, in their order. -/
theorem filter_decode (bs : List UInt8) :
    (decode bs).filter (·.toNat < 0x80) = (bs.filter isAscii).map fun b => Char.ofNat b.toNat :=
  (reads_iff.mpr rfl).filter_ascii

theorem lineFeed_mem_of_mem_decode (among : '\n' ∈ decode bs) : 0x0A ∈ bs := by
  have kept : '\n' ∈ (decode bs).filter (·.toNat < 0x80) :=
    List.mem_filter.mpr ⟨among, by decide⟩
  rw [filter_decode] at kept
  obtain ⟨b, inside, same⟩ := List.mem_map.mp kept
  obtain ⟨inside, ascii⟩ := List.mem_filter.mp inside
  have valid : b.toNat.isValidChar := .inl (Nat.lt_trans b.toNat_lt (by decide))
  have number : b.toNat = 0x0A := by rw [← toNat_ofNat valid, same]; rfl
  obtain rfl : b = 0x0A := UInt8.toNat_inj.mp number
  exact inside

/-- A decoded text has the lines that its octets have, each decoded for itself. -/
theorem lines_decode (bs : List UInt8) :
    Text.lines (decode bs) = (bs.splitOn 0x0A).map decode := by
  by_cases among : 0x0A ∈ bs
  · obtain ⟨line, rest, rfl, free⟩ := List.eq_append_cons_of_mem among
    have feed : Char.ofNat (0x0A : UInt8).toNat = '\n' := rfl
    rw [decode_append_ascii (by decide), feed, List.splitOn_append_cons_self_of_not_mem free,
      List.map_cons, ← lines_decode rest, Text.lines, Text.pieces_append_mark,
      Text.pieces_of_not_mem (mt lineFeed_mem_of_mem_decode free)]
    rfl
  · rw [List.splitOn_eq_singleton among]
    exact Text.pieces_of_not_mem (mt lineFeed_mem_of_mem_decode among)
termination_by bs.length

end Structure

end TexBuild.Utf8
