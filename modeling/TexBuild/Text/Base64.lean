import TexBuild.Text.Utf8

namespace TexBuild.Base64

/-- The six bits that a letter of the alphabet stands for. -/
def bits? (c : Char) : Option Nat :=
  let n := c.toNat
  if 0x41 ≤ n ∧ n ≤ 0x5A then some (n - 0x41)
  else if 0x61 ≤ n ∧ n ≤ 0x7A then some (n - 0x61 + 26)
  else if 0x30 ≤ n ∧ n ≤ 0x39 then some (n - 0x30 + 52)
  else if c = '+' then some 62
  else if c = '/' then some 63
  else none

/-- The octets that letters stand for, read with `place` letters of the group of four so
far, the bits left over from them, and the padding since the last letter. Other characters
count for nothing; what is padded in full ends the text, and a group cut short is none. -/
def decodeFrom (place left pads : Nat) : List Char → Option (List UInt8)
  | [] => if place = 0 then some [] else none
  | c :: cs =>
    if c = '=' then
      if 2 ≤ place then
        if 4 ≤ place + pads + 1 then some [] else decodeFrom place left (pads + 1) cs
      else decodeFrom place left pads cs
    else
      match bits? c with
      | none => decodeFrom place left pads cs
      | some n =>
        match place with
        | 0 => decodeFrom 1 n 0 cs
        | 1 => (decodeFrom 2 (n % 16) 0 cs).map ((4 * left + n / 16).toUInt8 :: ·)
        | 2 => (decodeFrom 3 (n % 4) 0 cs).map ((16 * left + n / 4).toUInt8 :: ·)
        | _ => (decodeFrom 0 0 0 cs).map ((64 * left + n).toUInt8 :: ·)

/-- The octets that a text in letters of the alphabet stands for. -/
def decode (cs : List Char) : Option (List UInt8) :=
  decodeFrom 0 0 0 cs

end TexBuild.Base64
