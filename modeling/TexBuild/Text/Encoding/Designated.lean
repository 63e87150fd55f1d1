import TexBuild.Text.Alphabet.Iso
import TexBuild.Text.Charset.Gb2312
import TexBuild.Text.Charset.Ksx1001
import TexBuild.Text.Encoding.Japanese

namespace TexBuild.Encoding.Designated

/-- The sets that escapes in seven bits can call. -/
inductive Repertoire where
  | ascii
  | roman
  | kana
  | japanese
  | oldJapanese
  | supplement
  | extended (e : Japanese.Edition)
  | second
  | korean
  | simplified
  | latin1
  | greek
deriving DecidableEq

namespace Repertoire

/-- Every character takes two octets. -/
def isDouble : Repertoire → Bool
  | japanese | oldJapanese | supplement | extended _ | second | korean | simplified => true
  | ascii | roman | kana | latin1 | greek => false

/-- The letter that ends the escape for a set. -/
def final : Repertoire → Char
  | ascii => 'B'
  | roman => 'J'
  | kana => 'I'
  | japanese => 'B'
  | oldJapanese => '@'
  | supplement => 'D'
  | extended .first => 'O'
  | extended .second => 'Q'
  | second => 'P'
  | korean => 'C'
  | simplified => 'A'
  | latin1 => 'A'
  | greek => 'F'

/-- The text of one octet. The upper halves of alphabets stand in a register of their
own. -/
def single? (r : Repertoire) (b : Nat) : Option (List Char) :=
  match r with
  | ascii => some [Char.ofNat b]
  | roman => some [if b = 0x5C then '¥' else if b = 0x7E then '‾' else Char.ofNat b]
  | kana => (Japanese.narrowKana? (b + 0x80)).map ([·])
  | _ => none

/-- The tilde, which has a place of its own in the extended set. -/
def tildePlace : Nat × Nat := (1, 17)

/-- The text of two octets. -/
def double? (r : Repertoire) (b c : Nat) : Option (List Char) :=
  let place? : Option (Nat × Nat) :=
    if 0x21 ≤ b ∧ b ≤ 0x7E ∧ 0x21 ≤ c ∧ c ≤ 0x7E then some (b - 0x21, c - 0x21) else none
  place?.bind fun (row, place) =>
    match r with
    | japanese | oldJapanese => (Charset.at? Charset.jisx0208 row place).map ([·])
    | supplement => (Charset.at? Charset.jisx0212 row place).map ([·])
    | extended e => if (row, place) = tildePlace then some ['~'] else Japanese.extended? e row place
    | second => (Japanese.second? .second row place).map ([·])
    | korean => (Charset.at? Charset.ksx1001 row place).map ([·])
    | simplified => (Charset.at? Charset.gb2312 row place).map ([·])
    | _ => none

end Repertoire

/-- The state of a text: the sets in the three registers, whether the second register is
in use, and whether an unknown escape is under way. -/
structure Registers where
  g0 : Repertoire
  g1 : Repertoire
  g2 : Repertoire
  isShifted : Bool
  inEscape : Bool

namespace Registers

/-- At the beginning of a text all registers hold ASCII. -/
def start : Registers :=
  ⟨.ascii, .ascii, .ascii, false, false⟩

/-- A set is put into a register. -/
def designate (r : Registers) (register : Nat) (set : Repertoire) : Registers :=
  match register with
  | 0 => { r with g0 := set }
  | 1 => { r with g1 := set }
  | _ => { r with g2 := set }

end Registers

/-- What a text in seven bits may hold: the sets that can be called besides ASCII, the
shifts between the first two registers, and the third register. -/
structure Variant where
  sets : List Repertoire
  hasShifts : Bool
  hasThird : Bool
  /-- A set may be called with a mark of its revision before it. -/
  hasRevision : Bool

/-- The escape character. -/
def escape : UInt8 := 0x1B

/-- An octet that ends an escape. -/
def isFinal (b : UInt8) : Bool :=
  (0x41 ≤ b && b ≤ 0x5A) || b == 0x40

/-- An octet after which a set is called. -/
def isIntroducer (b : UInt8) : Bool :=
  b == 0x28 || b == 0x29 || b == 0x24 || b == 0x2E || b == 0x26

/-- The most octets of an escape. -/
def longestEscape : Nat := 16

/-- How many octets an escape has. -/
inductive Extent where
  | octets (n : Nat)
  | short
  | endless

/-- The extent of an escape from a place in it on. A mark of a revision takes the octet
after it along. -/
def extent (v : Variant) (bs : List UInt8) : Nat → Nat → Extent
  | 0, _ => .endless
  | fuel + 1, i =>
    if longestEscape ≤ i then .endless
    else
      match bs[i]? with
      | none => .short
      | some b =>
        if isFinal b then .octets (i + 1)
        else if v.hasRevision ∧ b = 0x26 ∧ bs[i + 1]? = some 0x40 then extent v bs fuel (i + 3)
        else extent v bs fuel (i + 1)

/-- The register that an octet names. -/
def register? (b : UInt8) : Option Nat :=
  if b = 0x28 then some 0 else if b = 0x29 then some 1 else none

/-- The register that an escape is about, the width of the set and its letter. -/
def request? (v : Variant) : List UInt8 → Option (Nat × Bool × UInt8)
  | [_, a, f] =>
    if a = 0x24 then some (0, true, f)
    else if v.hasThird ∧ a = 0x2E then some (2, false, f)
    else (register? a).map fun r => (r, false, f)
  | [_, a, b, f] => if a = 0x24 then (register? b).map fun r => (r, true, f) else none
  | [_, _, _, e, a, f] =>
    if v.hasRevision ∧ e = escape ∧ a = 0x24 ∧ f = 0x42 then some (0, true, f) else none
  | _ => none

/-- The set that an escape calls. ASCII can always be called. -/
def called? (v : Variant) (isDouble : Bool) (f : UInt8) : Option Repertoire :=
  (Repertoire.ascii :: v.sets).find? fun r => r.isDouble == isDouble && r.final.toNat == f.toNat

/-- Reads an escape that calls a set. -/
def readCall (v : Variant) (r : Registers) (bs : List UInt8) : Piece Registers :=
  match extent v bs longestEscape 1 with
  | .short => .short
  | .endless => .misfit 0
  | .octets n =>
    let set? : Option (Nat × Repertoire) := do
      let (register, isDouble, f) ← request? v (bs.take n)
      return (register, ← called? v isDouble f)
    match set? with
    | some (register, set) => .text [] (n - 1) (r.designate register set)
    | none => .misfit (n - 1)

/-- The places of the Greek set that were filled after it could be called. -/
def laterGreek : List UInt8 := [0x24, 0x25, 0x2A]

/-- The character of an octet in the third register, which holds upper halves. In the Greek
one the highest bit is turned over, so that the lower half can be reached too. -/
def third? (r : Registers) (b : UInt8) : Option Char :=
  match r.g2, decide (b < 0x80) with
  | .ascii, true => some (Char.ofNat b.toNat)
  | .latin1, true => some (Char.ofNat (b.toNat + 0x80))
  | .greek, true =>
    if laterGreek.contains b then none
    else (Alphabet.greek.decode [b + 0x80]).head?.filter (· != replacement)
  | .greek, false => some (Char.ofNat (b.toNat - 0x80))
  | _, _ => none

/-- Reads characters in the set of the register that is in use. -/
def readSet (r : Registers) (b : UInt8) (rest : List UInt8) : Piece Registers :=
  let set := if r.isShifted then r.g1 else r.g0
  if set.isDouble then
    match rest with
    | [] => .short
    | c :: _ =>
      match set.double? b.toNat c.toNat with
      | some cs => .text cs 1 r
      | none => .misfit 1
  else Japanese.pieceOf r (set.single? b.toNat) 0

/-- Reads one piece. An escape that calls no set stands for itself up to its end. -/
def read (v : Variant) (r : Registers) (b : UInt8) (rest : List UInt8) : Piece Registers :=
  let itself : Registers → Piece Registers := fun r => .one r (Char.ofNat b.toNat) 0
  if r.inEscape then itself { r with inEscape := !isFinal b }
  else if b = escape then
    match rest with
    | [] => .short
    | c :: more =>
      if isIntroducer c then readCall v r (b :: rest)
      else if v.hasThird ∧ c = 0x4E then
        match more with
        | [] => .short
        | d :: _ =>
          match third? r d with
          | some x => .one r x 2
          | none => .misfit 2
      else itself { r with inEscape := true }
  else if v.hasShifts ∧ b = 0x0F then .text [] 0 { r with isShifted := false }
  else if v.hasShifts ∧ b = 0x0E then .text [] 0 { r with isShifted := true }
  else if b = 0x0A then itself { r with isShifted := false }
  else if b < 0x20 then itself r
  else if 0x80 ≤ b then .misfit 0
  else readSet r b rest

/-- An encoding in seven bits whose escapes call sets. -/
def encoding (name : String) (aliases : List String) (v : Variant) : Encoding :=
  ofPieces name aliases Registers.start (read v)

/-- Japanese text without shifts and with marks of revisions. -/
def japanese (sets : List Repertoire) : Variant :=
  ⟨sets, false, false, true⟩

/-- The encodings in seven bits. -/
def encodings : List Encoding :=
  [encoding "iso2022_kr" ["csiso2022kr", "iso2022kr", "iso_2022_kr"] ⟨[.korean], true, false, false⟩,
    encoding "iso2022_jp" ["csiso2022jp", "iso2022jp", "iso_2022_jp"]
      (japanese [.japanese, .roman, .oldJapanese]),
    encoding "iso2022_jp_1" ["iso2022jp_1", "iso_2022_jp_1"]
      (japanese [.japanese, .supplement, .roman, .oldJapanese]),
    encoding "iso2022_jp_2" ["iso2022jp_2", "iso_2022_jp_2"]
      ⟨[.japanese, .supplement, .korean, .simplified, .roman, .oldJapanese, .latin1, .greek], false, true, true⟩,
    encoding "iso2022_jp_2004" ["iso2022jp_2004", "iso_2022_jp_2004"]
      (japanese [.japanese, .extended .second, .second]),
    encoding "iso2022_jp_3" ["iso2022jp_3", "iso_2022_jp_3"]
      (japanese [.japanese, .extended .first, .second]),
    encoding "iso2022_jp_ext" ["iso2022jp_ext", "iso_2022_jp_ext"]
      (japanese [.japanese, .supplement, .roman, .kana, .oldJapanese])]

end TexBuild.Encoding.Designated
