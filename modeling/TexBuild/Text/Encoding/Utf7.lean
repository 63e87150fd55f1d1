import TexBuild.Number.Power
import TexBuild.Text.Base64
import TexBuild.Text.Encoding.Basic

namespace TexBuild.Encoding.Utf7

/-- Where a decoder of seven bits stands: among characters that stand for themselves,
after the plus sign that opens a group of letters, or in a group, with a number of bits
left over, their value and perhaps the first half of a pair. -/
inductive State where
  | plain
  | opened
  | group (count value : Nat) (high : Option Nat)

namespace State

/-- One octet outside a group. -/
def outside (b : UInt8) : List Char × State :=
  if b = 0x2B then ([], opened)
  else if b < 0x80 then ([Char.ofNat b.toNat], plain)
  else ([replacement], plain)

/-- The characters that a unit of sixteen bits completes, and the half of a pair that
it leaves. -/
def unit (high : Option Nat) (n : Nat) : List Char × Option Nat :=
  let isLow : Bool := 0xDC00 ≤ n && n < 0xE000
  let isHigh : Bool := 0xD800 ≤ n && n < 0xDC00
  match high with
  | some h =>
    if isLow then ([charOf (0x10000 + (h - 0xD800) * 0x400 + (n - 0xDC00))], none)
    else if isHigh then ([replacement], some n)
    else ([replacement, charOf n], none)
  | none => if isHigh then ([], some n) else ([charOf n], none)

/-- A letter of a group, of six bits. -/
def letter (count value : Nat) (high : Option Nat) (bits : Nat) : List Char × State :=
  let count := count + 6
  let value := 64 * value + bits
  if count < 16 then ([], group count value high)
  else
    let size := twoTo (count - 16)
    let (cs, high) := unit high (value / size)
    (cs, group (count - 16) (value % size) high)

/-- The bits left over hold no more than the padding of a group. -/
def isPadding (count value : Nat) : Bool :=
  count < 6 && value == 0

/-- One octet: the characters that it completes and the state after it. -/
def step (s : State) (b : UInt8) : List Char × State :=
  let bits? := Base64.bits? (Char.ofNat b.toNat)
  match s with
  | plain => outside b
  | opened =>
    if b = 0x2D then (['+'], plain)
    else
      match bits? with
      | some bits => letter 0 0 none bits
      | none => ([replacement], plain)
  | group count value high =>
    match bits? with
    | some bits => letter count value high bits
    | none =>
      if !isPadding count value then ([replacement], plain)
      else
        let cut := if high.isSome && b < 0x80 then [replacement] else []
        if b = 0x2D then (cut, plain)
        else
          let (cs, next) := outside b
          (cut ++ cs, next)

/-- What is owed at the end of the octets. -/
def close : State → List Char
  | plain | opened => []
  | group count value high => if high.isSome || !isPadding count value then [replacement] else []

/-- The text of octets from a state on. -/
def decode : State → List UInt8 → List Char
  | s, [] => s.close
  | s, b :: rest =>
    let (cs, next) := s.step b
    cs ++ decode next rest

end State

/-- Text in seven bits, with groups of letters for what has none. -/
def encoding : Encoding :=
  ⟨"utf_7", ["u7", "unicode_1_1_utf_7", "utf7"], fun bs => .ok (State.decode .plain bs)⟩

end TexBuild.Encoding.Utf7
