import TexBuild.Text.Encoding.Basic

namespace TexBuild.Encoding.Escaped

/-- The value of a hexadecimal digit. -/
def hexValue? (b : UInt8) : Option Nat :=
  let n := b.toNat
  if 0x30 ≤ n ∧ n ≤ 0x39 then some (n - 0x30)
  else if 0x41 ≤ n ∧ n ≤ 0x46 then some (n - 0x37)
  else if 0x61 ≤ n ∧ n ≤ 0x66 then some (n - 0x57)
  else none

/-- The leading digits of octets, at most so many. -/
def hexDigits : Nat → List UInt8 → List Nat
  | n + 1, b :: rest =>
    match hexValue? b with
    | some d => d :: hexDigits n rest
    | none => []
  | _, _ => []

/-- The character of a fixed count of digits after a backslash and a letter. Digits that
are missing or that go too far are replaced as one. -/
def readNumber (count : Nat) (rest : List UInt8) : Piece Unit :=
  let digits := hexDigits count rest
  let n := digits.foldl (fun n d => 16 * n + d) 0
  if digits.length < count ∨ 0x10FFFF < n then .misfit (1 + digits.length)
  else .one () (charOf n) (1 + digits.length)

/-- The digits below eight that octets begin with, at most so many. -/
def octalDigits (count : Nat) (bs : List UInt8) : List Nat :=
  ((bs.take count).takeWhile fun b => 0x30 ≤ b && b ≤ 0x37).map fun b => b.toNat - 0x30

/-- What a letter after a backslash stands for alone. -/
def simple : List (UInt8 × Char) :=
  [(0x5C, '\\'), (0x27, '\''), (0x22, '"'), (0x62, '\x08'), (0x66, '\x0c'), (0x74, '\t'), (0x6E, '\n'),
    (0x72, '\r'), (0x76, '\x0b'), (0x61, '\x07')]

/-- The escape of a name in braces. Names are not looked up, so each is replaced as a
whole. -/
def readName : List UInt8 → Piece Unit
  | 0x7B :: rest =>
    let name := rest.takeWhile (· != 0x7D)
    if name.length = rest.length then .misfit (2 + name.length)
    else if name = [] then .misfit 2
    else .misfit (3 + name.length)
  | _ => .misfit 1

/-- Reads an escape after its backslash. A backslash before any other letter stands for
itself. -/
def readEscape : List UInt8 → Piece Unit
  | [] => .misfit 0
  | c :: rest =>
    match simple.lookup c with
    | some x => .one () x 1
    | none =>
      if c = 0x0A then .text [] 1 ()
      else if 0x30 ≤ c ∧ c ≤ 0x37 then
        let digits := octalDigits 3 (c :: rest)
        .one () (charOf (digits.foldl (fun n d => 8 * n + d) 0)) digits.length
      else if c = 0x78 then readNumber 2 rest
      else if c = 0x75 then readNumber 4 rest
      else if c = 0x55 then readNumber 8 rest
      else if c = 0x4E then readName rest
      else .text ['\\', Char.ofNat c.toNat] 1 ()

/-- Reads an escape of which only two kinds are known. -/
def readRaw : List UInt8 → Piece Unit
  | [] => .one () '\\' 0
  | c :: rest =>
    if c = 0x75 then readNumber 4 rest
    else if c = 0x55 then readNumber 8 rest
    else .text ['\\', Char.ofNat c.toNat] 1 ()

/-- Octets that stand for their own numbers, with escapes after backslashes. -/
def encoding (name : String) (readAfter : List UInt8 → Piece Unit) : Encoding :=
  ofPieces name [] () fun _ b rest =>
    if b = 0x5C then readAfter rest else .one () (Char.ofNat b.toNat) 0

/-- The encodings with escapes. -/
def encodings : List Encoding :=
  [encoding "unicode_escape" readEscape, encoding "raw_unicode_escape" readRaw]

end TexBuild.Encoding.Escaped
