import TexBuild.Number.Binary64

namespace TexBuild.Binary64

/-- The open or closed interval of the numbers that round to one finite number
`m * 2 ^ e`, with the number itself, all over the denominator `den`. -/
structure Neighbourhood where
  low : Nat
  value : Nat
  high : Nat
  den : Nat
  closed : Bool

/-- The neighbourhood of `m * 2 ^ e`. Below a power of two the next number is
only half as far. The bounds round to the number itself iff `m` is even. -/
def neighbourhood (m : Nat) (e : Int) : Neighbourhood :=
  let unit := twoTo (e - 2).toNat
  let den := twoTo (2 - e).toNat
  let below := if m = twoTo 52 ∧ minExponent < e then 1 else 2
  { low := (4 * m - below) * unit
    value := 4 * m * unit
    high := (4 * m + 2) * unit
    den := den
    closed := m % 2 == 0 }

/-- The decimal `c * 10 ^ k` lies in the neighbourhood. -/
def Neighbourhood.covers (n : Neighbourhood) (c : Nat) (k : Int) : Bool :=
  let x := c * tenTo k.toNat * n.den
  let scale := tenTo (-k).toNat
  if n.closed then n.low * scale ≤ x && x ≤ n.high * scale
  else n.low * scale < x && x < n.high * scale

/-- The number of digits before the point of `num / den`; for a fraction below
one tenth it is negative and counts the zeros after the point. -/
def decimalPoint (num den : Nat) : Int :=
  if den ≤ num then ((Nat.toDigits 10 (num / den)).length : Int)
  else
    -- `den / num` has one digit more than there are zeros, except at a power of ten
    let zeros := (Nat.toDigits 10 ((den - 1) / num)).length
    1 - (zeros : Int)

/-- The best decimal of `digits` digits in the neighbourhood, as the digits and
the power of ten that they count: of the two next to the number the nearer one. -/
def Neighbourhood.onGrid? (n : Neighbourhood) (point : Int) (digits : Nat) :
    Option (Nat × Int) :=
  let k := point - digits
  let num := n.value * tenTo (-k).toNat
  let den := n.den * tenTo k.toNat
  let c := num / den
  let down := n.covers c k
  let up := n.covers (c + 1) k
  if down && up then some (roundEven num den, k)
  else if down then some (c, k)
  else if up then some (c + 1, k)
  else none

/-- The shortest decimal that rounds to the positive number `m * 2 ^ e`; of
several the nearest. Seventeen digits always suffice. -/
def shortest (m : Nat) (e : Int) : Nat × Int :=
  let n := neighbourhood m e
  let point := decimalPoint n.value n.den
  match (List.range 18).findSome? (fun digits =>
    if digits = 0 then none else n.onGrid? point digits) with
  | some found => found
  | none => (0, 0)

/-- The digits without the zeros at their end, and the power of ten that the last
one counts. -/
def dropZeros : Nat → Nat × Int → Nat × Int
  | 0, d => d
  | n + 1, (c, k) => if c % 10 = 0 ∧ c ≠ 0 then dropZeros n (c / 10, k + 1) else (c, k)

/-- Writes `c * 10 ^ k`, `c` positive: positionally with at least one digit on
each side of the point, or, when the first digit stands for less than `1e-4` or
for `1e16` or more, with an exponent of at least two digits. -/
def decimalText (c : Nat) (k : Int) : List Char :=
  let (c, k) := dropZeros 17 (c, k)
  let digits := Nat.toDigits 10 c
  let point := k + digits.length
  if point ≤ -4 ∨ 16 < point then
    let power := point - 1
    let size := Nat.toDigits 10 power.natAbs
    let mantissa := match digits with
      | [] => []
      | [d] => [d]
      | d :: ds => d :: '.' :: ds
    mantissa ++ 'e' :: (if power < 0 then '-' else '+') ::
      (if size.length < 2 then '0' :: size else size)
  else if point ≤ 0 then
    '0' :: '.' :: List.replicate (-point).toNat '0' ++ digits
  else if (digits.length : Int) ≤ point then
    digits ++ List.replicate (point - digits.length).toNat '0' ++ ['.', '0']
  else digits.take point.toNat ++ '.' :: digits.drop point.toNat

/-- The number in the fewest digits that read back as the same number. -/
def toText : Binary64 → String
  | nan => "nan"
  | infinite negative => if negative then "-inf" else "inf"
  | finite negative m e =>
    let body := if m = 0 then ['0', '.', '0'] else
      decimalText (shortest m e).1 (shortest m e).2
    String.ofList (if negative then '-' :: body else body)

end TexBuild.Binary64
