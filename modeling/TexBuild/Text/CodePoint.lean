namespace TexBuild

/-- A character of a text that a caller gives: one of Unicode, or half of a pair of surrogates that
stands alone, for which the type of characters has no value. -/
inductive CodePoint where
  | character (c : Char)
  | surrogate (k : Fin 2048)
deriving DecidableEq

namespace CodePoint

/-- Stands before a character that is not written as it is, since it would stand for a surrogate
or for this mark. The one behind the mark is that character so many places back. -/
def mark : Char := Char.ofNat 0x10F7FF

/-- The number of the first character that stands for a surrogate; the last 2048 do. -/
def firstStandIn : Nat := 0x10F800

/-- How far back the character behind the mark is: where characters take one octet less, so that
the mark has the octet that is missing. -/
def shift : Nat := 0x10B7FF

/-- How a character is written. -/
def chars : CodePoint → List Char
  | character c => if mark.toNat ≤ c.toNat then [mark, Char.ofNat (c.toNat - shift)] else [c]
  | surrogate k => [Char.ofNat (firstStandIn + k)]

/-- How the characters of a text are written. -/
def text (ps : List CodePoint) : String :=
  String.ofList (ps.flatMap chars)

/-- What a character stands for that has no mark before it. -/
def ofChar (c : Char) : CodePoint :=
  if firstStandIn ≤ c.toNat then surrogate (Fin.ofNat 2048 (c.toNat - firstStandIn))
  else character c

/-- The characters of a text that is written so. -/
def ofChars : List Char → List CodePoint
  | [] => []
  | c :: rest =>
    if c = mark then ofMarked rest
    else ofChar c :: ofChars rest
where
  ofMarked : List Char → List CodePoint
    | [] => []
    | c :: rest => character (Char.ofNat (c.toNat + shift)) :: ofChars rest

/-- Half of a pair of surrogates by which a system stands for an octet that is no text. -/
def isOctet (k : Fin 2048) : Bool :=
  0x480 ≤ k.val && k.val < 0x500

/-- The character has a place in the names of a system: it does not end a text, and is no half of
a pair but for an octet. -/
def isFit : CodePoint → Bool
  | character c => c != Char.ofNat 0
  | surrogate k => isOctet k

/-- The octets that a character takes in the names of a system. -/
def octets : CodePoint → Nat
  | character c => c.utf8Size
  | surrogate k => if isOctet k then 1 else 3

end CodePoint

namespace Text

/-- A system takes the text as a name or as a part of one. -/
def isFit (cs : List Char) : Bool :=
  cs.all fun c => (CodePoint.ofChar c).isFit

/-- The octets that a character takes where it stands. -/
def width (c : Char) : Nat :=
  if c = CodePoint.mark then 1 else (CodePoint.ofChar c).octets

/-- The octets that a text takes in the names of a system. -/
def octets (cs : List Char) : Nat :=
  cs.foldr (width · + ·) 0

theorem octets_append (cs ds : List Char) : octets (cs ++ ds) = octets cs + octets ds := by
  induction cs with
  | nil => exact (Nat.zero_add _).symm
  | cons c cs ih => exact (congrArg (width c + ·) ih).trans (Nat.add_assoc ..).symm

theorem width_pos (c : Char) : 0 < width c := by
  unfold width
  split
  · exact Nat.one_pos
  · cases CodePoint.ofChar c with
    | character d => exact d.utf8Size_pos
    | surrogate k =>
      change 0 < if CodePoint.isOctet k then 1 else 3
      split <;> decide

theorem octets_pos {cs : List Char} (some : cs ≠ []) : 0 < octets cs := by
  obtain ⟨c, rest, rfl⟩ := List.exists_cons_of_ne_nil some
  exact Nat.add_pos_left (width_pos c) _

end Text

namespace CodePoint

theorem toNat_ofNat {n : Nat} (valid : n.isValidChar) : (Char.ofNat n).toNat = n := by
  rw [Char.ofNat, dif_pos valid]
  rfl

theorem toNat_standIn (k : Fin 2048) :
    (Char.ofNat (firstStandIn + k)).toNat = firstStandIn + k := by
  have bound := k.isLt
  have first : firstStandIn = 0x10F800 := rfl
  exact toNat_ofNat (.inr ⟨by omega, by omega⟩)

theorem ofChar_standIn (k : Fin 2048) : ofChar (Char.ofNat (firstStandIn + k)) = surrogate k := by
  rw [ofChar, toNat_standIn, if_pos (Nat.le_add_right ..), Nat.add_sub_cancel_left]
  simp

theorem standIn_ne_mark (k : Fin 2048) : Char.ofNat (firstStandIn + k) ≠ mark := by
  intro same
  have number := toNat_standIn k
  have top : mark.toNat = 0x10F7FF := rfl
  have first : firstStandIn = 0x10F800 := rfl
  rw [same] at number
  omega

/-- How a character is written: by itself, with the mark before another one, or as a stand-in. -/
theorem chars_cases (p : CodePoint) :
    (∃ k, p = surrogate k ∧ p.chars = [Char.ofNat (firstStandIn + k)]) ∨
      (∃ c d, p = character c ∧ p.chars = [mark, d] ∧ c.toNat = d.toNat + shift ∧
        mark.toNat ≤ c.toNat ∧ 0x800 ≤ d.toNat ∧ d.toNat < 0x10000) ∨
      ∃ c, p = character c ∧ p.chars = [c] ∧ c.toNat < mark.toNat := by
  cases p with
  | surrogate k => exact .inl ⟨k, rfl, rfl⟩
  | character c =>
    by_cases displaced : mark.toNat ≤ c.toNat
    · have top : mark.toNat = 0x10F7FF := rfl
      have size : shift = 0x10B7FF := rfl
      have bound : c.toNat < 0x110000 := by
        obtain low | ⟨-, high⟩ := c.valid
        · exact Nat.lt_trans low (by decide)
        · exact high
      have number : (Char.ofNat (c.toNat - shift)).toNat = c.toNat - shift :=
        toNat_ofNat (.inl (by omega))
      exact .inr (.inl ⟨c, _, rfl, if_pos displaced, by omega, displaced, by omega, by omega⟩)
    · exact .inr (.inr ⟨c, rfl, if_neg displaced, Nat.lt_of_not_le displaced⟩)

theorem ofChar_of_lt {c : Char} (low : c.toNat < mark.toNat) : ofChar c = character c := by
  have top : mark.toNat = 0x10F7FF := rfl
  have first : firstStandIn = 0x10F800 := rfl
  exact if_neg (by omega)

theorem ne_mark_of_lt {c : Char} (low : c.toNat < mark.toNat) : c ≠ mark := by
  rintro rfl
  exact Nat.lt_irrefl _ low

theorem ofChars_chars_append (p : CodePoint) (rest : List Char) :
    ofChars (p.chars ++ rest) = p :: ofChars rest := by
  obtain ⟨k, rfl, written⟩ | ⟨c, d, rfl, written, number, -⟩ | ⟨c, rfl, written, low⟩ := p.chars_cases
  · rw [written, List.singleton_append, ofChars, if_neg (standIn_ne_mark k), ofChar_standIn]
  · rw [written, List.cons_append, List.singleton_append, ofChars, if_pos rfl, ofChars.ofMarked,
      ← number, Char.ofNat_toNat]
  · rw [written, List.singleton_append, ofChars, if_neg (ne_mark_of_lt low), ofChar_of_lt low]

/-- What was written is read back. -/
theorem ofChars_flatMap (ps : List CodePoint) : ofChars (ps.flatMap chars) = ps := by
  induction ps with
  | nil => rfl
  | cons p ps ih => rw [List.flatMap_cons, ofChars_chars_append, ih]

/-- Texts that are written alike are the same. -/
theorem text_injective {ps qs : List CodePoint} (same : text ps = text qs) : ps = qs := by
  have chars : ps.flatMap chars = qs.flatMap chars := String.ofList_injective same
  rw [← ofChars_flatMap ps, chars, ofChars_flatMap]

theorem isFit_chars (p : CodePoint) : Text.isFit p.chars = p.isFit := by
  obtain ⟨k, rfl, written⟩ | ⟨c, d, rfl, written, -, high, some, low⟩ | ⟨c, rfl, written, low⟩ :=
    p.chars_cases
  · rw [written, Text.isFit, List.all_cons, ofChar_standIn, List.all_nil, Bool.and_true]
  · have top : mark.toNat = 0x10F7FF := rfl
    have low' : d.toNat < mark.toNat := by omega
    have other {a : Char} (some : 0 < a.toNat) : a ≠ Char.ofNat 0 := by
      rintro rfl
      exact Nat.lt_irrefl 0 some
    have whole : isFit (character c) = true := bne_iff_ne.mpr (other (by omega))
    have part : isFit (character d) = true := bne_iff_ne.mpr (other (by omega))
    have first : isFit (ofChar mark) = true := by decide
    rw [written, Text.isFit, whole]
    simp only [List.all_cons, List.all_nil, ofChar_of_lt low', first, part, Bool.and_self]
  · rw [written, Text.isFit, List.all_cons, ofChar_of_lt low, List.all_nil, Bool.and_true]

/-- A text is fit for a system if its characters are. -/
theorem isFit_text (ps : List CodePoint) : Text.isFit (text ps).toList = ps.all isFit := by
  rw [text, String.toList_ofList]
  induction ps with
  | nil => rfl
  | cons p ps ih =>
    rw [List.flatMap_cons, Text.isFit, List.all_append, List.all_cons, ← ih, ← isFit_chars]
    rfl

theorem octets_chars (p : CodePoint) : Text.octets p.chars = p.octets := by
  obtain ⟨k, rfl, written⟩ | ⟨c, d, rfl, written, -, high, some, low⟩ | ⟨c, rfl, written, low⟩ :=
    p.chars_cases
  · rw [written, Text.octets, List.foldr_cons, List.foldr_nil, Text.width,
      if_neg (standIn_ne_mark k), ofChar_standIn, Nat.add_zero]
  · have top : mark.toNat = 0x10F7FF := rfl
    have low' : d.toNat < mark.toNat := by omega
    have beyond {a : Char} {k n : Nat} (far : k < a.toNat) (small : n ≤ k) : ¬ a.toNat ≤ n :=
      Nat.not_le_of_lt (Nat.lt_of_le_of_lt small far)
    have three : d.utf8Size = 3 :=
      (if_neg (beyond some (by decide))).trans
        ((if_neg (beyond some (by decide))).trans (if_pos (Nat.le_of_lt_succ low)))
    have four : c.utf8Size = 4 := by
      have far : 0xFFFF < c.toNat := by omega
      exact (if_neg (beyond far (by decide))).trans
        ((if_neg (beyond far (by decide))).trans (if_neg (beyond far (by decide))))
    simp only [written, Text.octets, List.foldr_cons, List.foldr_nil, Text.width, if_true,
      if_neg (ne_mark_of_lt low'), ofChar_of_lt low', octets]
    rw [three, four, Nat.add_zero]
  · rw [written, Text.octets, List.foldr_cons, List.foldr_nil, Text.width,
      if_neg (ne_mark_of_lt low), ofChar_of_lt low, Nat.add_zero]

/-- A text takes the octets of its characters. -/
theorem octets_text (ps : List CodePoint) :
    Text.octets (text ps).toList = ps.foldr (octets · + ·) 0 := by
  rw [text, String.toList_ofList]
  induction ps with
  | nil => rfl
  | cons p ps ih => rw [List.flatMap_cons, Text.octets_append, octets_chars, ih, List.foldr_cons]

end CodePoint

end TexBuild
