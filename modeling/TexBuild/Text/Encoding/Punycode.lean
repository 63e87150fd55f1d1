import TexBuild.Text.Encoding.Basic

namespace TexBuild.Encoding.Punycode

/-- The greatest digit whose place in a numeral is the last one. -/
def threshold (place bias : Nat) : Nat :=
  min 26 (max 1 (36 * (place + 1) - bias))

/-- The value of a digit: letters, then figures. -/
def digit? (b : UInt8) : Option Nat :=
  let n := b.toNat
  if 0x41 ≤ n ∧ n ≤ 0x5A then some (n - 0x41)
  else if 0x61 ≤ n ∧ n ≤ 0x7A then some (n - 0x61)
  else if 0x30 ≤ n ∧ n ≤ 0x39 then some (n - 0x30 + 26)
  else none

/-- A numeral of digits of growing weight, and what follows it. -/
def number? (bias : Nat) (place weight : Nat) : List UInt8 → Option (Nat × List UInt8)
  | [] => none
  | b :: rest =>
    match digit? b with
    | none => none
    | some d =>
      let t := threshold place bias
      if d < t then some (d * weight, rest)
      else (number? bias (place + 1) (weight * (36 - t)) rest).map fun r => (d * weight + r.1, r.2)

/-- How often a difference is scaled down, and what is left of it. -/
def scaled : Nat → Nat → Nat × Nat
  | 0, delta => (0, delta)
  | fuel + 1, delta =>
    if 455 < delta then
      let (n, d) := scaled fuel (delta / 35)
      (n + 1, d)
    else (0, delta)

/-- The bias after a difference, for a text of so many characters. -/
def adapted (delta : Nat) (isFirst : Bool) (size : Nat) : Nat :=
  let delta := if isFirst then delta / 700 else delta / 2
  let delta := delta + delta / size
  let (n, d) := scaled delta delta
  36 * n + 36 * d / (d + 38)

/-- The insertion of characters: the text so far, the next character and where it may be
put at the earliest, and the bias. -/
structure Insertion where
  text : List Char
  next : Nat
  place : Nat
  bias : Nat

/-- The last character of all; one beyond it is shown as a question mark. -/
def lastCharacter : Nat := 0x10FFFF

/-- One more character at a distance from the last one. -/
def Insertion.insert (s : Insertion) (delta : Nat) (isFirst : Bool) : Insertion :=
  let size := s.text.length + 1
  let next := s.next + (s.place + delta) / size
  let next := if lastCharacter < next then '?'.toNat else next
  let place := (s.place + delta) % size
  ⟨s.text.take place ++ charOf next :: s.text.drop place, next, place + 1, adapted delta isFirst size⟩

/-- Inserts the characters of numerals until one of them is broken. -/
def insertAll : Nat → Bool → Insertion → List UInt8 → List Char
  | 0, _, s, _ => s.text
  | _ + 1, _, s, [] => s.text
  | fuel + 1, isFirst, s, bs =>
    match number? s.bias 0 1 bs with
    | none => s.text
    | some (delta, rest) => insertAll fuel false (s.insert delta isFirst) rest

/-- The text of letters and, after the last hyphen, of numerals for the other
characters. -/
def decode (bs : List UInt8) : Except DecodeError (List Char) :=
  let tail := (bs.reverse.takeWhile (· != 0x2D)).reverse
  let base := (bs.take (bs.length - tail.length)).dropLast
  match tail.findIdx? (0x80 ≤ ·) with
  | some i => .error (.notAscii (tail.getD i 0) i)
  | none =>
    .ok (insertAll (tail.length + 1) true ⟨Alphabet.ascii.decode base, 0x80, 0, 72⟩ tail)

/-- Text as in names of hosts. -/
def encoding : Encoding :=
  ⟨"punycode", [], decode⟩

end TexBuild.Encoding.Punycode
