import TexBuild.Text.Charset
import TexBuild.Text.Charset.Ksx1001
import TexBuild.Text.Encoding.Basic

namespace TexBuild.Encoding.Korean

/-- The consonants that begin a syllable. -/
def initials : List Char := "ㄱㄲㄴㄷㄸㄹㅁㅂㅃㅅㅆㅇㅈㅉㅊㅋㅌㅍㅎ".toList

/-- The vowels of a syllable. -/
def vowels : List Char := "ㅏㅐㅑㅒㅓㅔㅕㅖㅗㅘㅙㅚㅛㅜㅝㅞㅟㅠㅡㅢㅣ".toList

/-- The consonants that end a syllable. -/
def finals : List Char := "ㄱㄲㄳㄴㄵㄶㄷㄹㄺㄻㄼㄽㄾㄿㅀㅁㅂㅄㅅㅆㅇㅈㅊㅋㅌㅍㅎ".toList

/-- The syllable of three numbers; the last one is zero if no consonant ends it. -/
def syllable (initial vowel final : Nat) : Char :=
  Char.ofNat (0xAC00 + 588 * initial + 28 * vowel + final)

/-- The octet before the second one of a letter of a spelled syllable. -/
def letterLead : UInt8 := 0xA4

/-- The letter that stands before a spelled syllable, and in place of a consonant that
does not end it. -/
def filler : UInt8 := 0xD4

/-- The single letter of an octet. -/
def letter? (b : UInt8) : Option Char :=
  Charset.high? Charset.ksx1001 letterLead.toNat b.toNat

/-- The syllable that three letters spell. -/
def spelled? (i v f : UInt8) : Option Char := do
  let initial ← initials.idxOf? (← letter? i)
  let vowel ← vowels.idxOf? (← letter? v)
  let final ← if f = filler then some 0 else (finals.idxOf? (← letter? f)).map (· + 1)
  return syllable initial vowel final

/-- A syllable that is spelled in letters after a filler. -/
def spelled : List UInt8 → Piece Unit
  | _ :: a :: i :: b :: v :: c :: f :: _ =>
    if a = letterLead ∧ b = letterLead ∧ c = letterLead then .ofOption () (spelled? i v f) 7 else .misfit 0
  | _ => .short

/-- Two octets with their highest bit, or a syllable spelled in letters. -/
def euc : Encoding :=
  ofLeads "euc_kr"
    ["euckr", "korean", "ks_c_5601", "ks_c_5601_1987", "ks_x_1001", "ksc5601", "ksx1001", "x_mac_korean"]
    fun b rest =>
      match rest with
      | [] => .short
      | c :: _ =>
        if b = letterLead ∧ c = filler then spelled rest
        else .ofOption () (Charset.high? Charset.ksx1001 b.toNat c.toNat) 1

/-- The syllables that the set does not hold. -/
def otherSyllables : Array Char :=
  Charset.absent 0xAC00 11172 Charset.ksx1001

/-- The place of a second octet among those that may follow a syllable's first one. -/
def unifiedPlace? (c : Nat) : Option Nat :=
  if 0x41 ≤ c ∧ c ≤ 0x5A then some (c - 0x41)
  else if 0x61 ≤ c ∧ c ≤ 0x7A then some (c - 0x61 + 26)
  else if 0x81 ≤ c ∧ c ≤ 0xFE then some (c - 0x81 + 52)
  else none

/-- The other syllables stand in order in the places that the set leaves free: whole
rows of 178 before it, and the first 84 places of its own rows. -/
def unified? (b c : Nat) : Option Char :=
  match Charset.high? Charset.ksx1001 b c with
  | some d => some d
  | none => do
    let place ← unifiedPlace? c
    if 0x81 ≤ b ∧ b < 0xA1 then otherSyllables[178 * (b - 0x81) + place]?
    else if 0xA1 ≤ b ∧ place < 84 then otherSyllables[178 * 32 + 84 * (b - 0xA1) + place]?
    else none

/-- The set of syllables made whole. -/
def unified : Encoding :=
  ofLeads "cp949" ["949", "ms949", "uhc"] (twoOctets unified?)

/-- A place in a syllable: a letter of this number, or none. -/
inductive Slot where
  | filler
  | letter (n : Nat)

/-- The consonant that begins a syllable. -/
def initialSlot? (n : Nat) : Option Slot :=
  if n = 1 then some .filler else if 2 ≤ n ∧ n ≤ 20 then some (.letter (n - 2)) else none

/-- The vowel of a syllable. The numbers come in groups of six. -/
def vowelSlot? (n : Nat) : Option Slot :=
  if n = 2 then some .filler
  else (([3, 4, 5, 6, 7, 10, 11, 12, 13, 14, 15, 18, 19, 20, 21, 22, 23, 26, 27, 28, 29] : List Nat).idxOf? n).map .letter

/-- The consonant that ends a syllable. -/
def finalSlot? (n : Nat) : Option Slot :=
  if n = 1 then some .filler
  else if 2 ≤ n ∧ n ≤ 17 then some (.letter (n - 2))
  else if 19 ≤ n ∧ n ≤ 29 then some (.letter (n - 3))
  else none

/-- A syllable in three groups of five bits, or a letter alone. -/
def combined? (n : Nat) : Option Char := do
  let i ← initialSlot? (n / 1024 % 32)
  let v ← vowelSlot? (n / 32 % 32)
  let f ← finalSlot? (n % 32)
  match i, v, f with
  | .filler, .filler, .filler => some '\u3000'
  | .filler, .filler, .letter z => finals[z]?
  | .filler, .letter y, .filler => vowels[y]?
  | .letter x, .filler, .filler => initials[x]?
  | .letter x, .letter y, .filler => some (syllable x y 0)
  | .letter x, .letter y, .letter z => some (syllable x y (z + 1))
  | _, _, _ => none

/-- The row of the set with which a first octet begins. -/
def pairedRow? (b : Nat) : Option Nat :=
  if 0xD9 ≤ b ∧ b ≤ 0xDE then some (2 * (b - 0xD9))
  else if 0xE0 ≤ b ∧ b ≤ 0xF9 then some (2 * (b - 0xE0) + 41)
  else none

/-- The place of a second octet in the two rows that a first one covers. -/
def pairedPlace? (c : Nat) : Option Nat :=
  if 0x31 ≤ c ∧ c ≤ 0x7E then some (c - 0x31)
  else if 0x91 ≤ c ∧ c ≤ 0xFE then some (c - 0x43)
  else none

/-- The characters of the set that are no syllables, two of its rows for each first
octet. The modern letters have no place here, since they are syllables with fillers. -/
def paired? (b c : Nat) : Option Char := do
  let row ← pairedRow? b
  let place ← pairedPlace? c
  if b = 0xDA ∧ 0xA1 ≤ c ∧ c ≤ 0xD3 then none
  else Charset.at? Charset.ksx1001 (row + place / 94) (place % 94)

/-- Syllables put together from their letters. -/
def johab : Encoding :=
  ofLeads "johab" ["cp1361", "ms1361"] (twoOctets fun b c =>
    if b < 0xD8 then combined? (256 * b + c) else paired? b c)

/-- The Korean encodings without shifts. -/
def encodings : List Encoding :=
  [euc, unified, johab]

end TexBuild.Encoding.Korean
