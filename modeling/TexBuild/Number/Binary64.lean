import TexBuild.Number.Power
import TexBuild.Number.Rounding

namespace TexBuild

/-- A number of the 64-bit binary format. The finite one with mantissa `m` and
exponent `e` is `m * 2 ^ e`, or its negative; zero has a sign too. -/
inductive Binary64 where
  | finite (negative : Bool) (m : Nat) (e : Int)
  | infinite (negative : Bool)
  | nan
deriving DecidableEq, Repr

namespace Binary64

/-- The least exponent, that of the numbers next to zero. -/
def minExponent : Int := -1074

/-- The greatest exponent of a finite number. -/
def maxExponent : Int := 971

/-- The bits of the mantissa, the leading one included. -/
def precision : Nat := 53

/-- The number with the given 64 bits: a sign, eleven bits of exponent and the
rest of the mantissa. -/
def ofBits (bits : Nat) : Binary64 :=
  let negative := bits / twoTo 63 % 2 == 1
  let power := bits / twoTo 52 % twoTo 11
  let fraction := bits % twoTo 52
  if power = 2047 then (if fraction = 0 then infinite negative else nan)
  else if power = 0 then finite negative fraction minExponent
  else finite negative (twoTo 52 + fraction) (minExponent + (power - 1 : Nat))

/-- The bits of a sign. -/
def signBit (negative : Bool) : Nat :=
  if negative then twoTo 63 else 0

/-- The 64 bits of a number. -/
def toBits : Binary64 → Nat
  | finite negative m e =>
    if m < twoTo 52 then signBit negative + m
    else signBit negative + ((e - minExponent).toNat + 1) * twoTo 52 + (m - twoTo 52)
  | infinite negative => signBit negative + 2047 * twoTo 52
  | nan => 2047 * twoTo 52 + twoTo 51

/-- The power of two that places the leading bit of `num / den` at the end of a
full mantissa, or the least exponent if that is greater. -/
def exponentOf (num den : Nat) : Int :=
  let guess : Int := (num.log2 : Int) - (den.log2 : Int) - 52
  -- the quotient of the logarithms may be one too great
  let small : Bool :=
    if 0 ≤ guess then num < twoTo 52 * (den * twoTo guess.toNat)
    else num * twoTo (-guess).toNat < twoTo 52 * den
  max minExponent (if small then guess - 1 else guess)

/-- The number nearest to `num / den`, a tie going to the even mantissa; beyond
the greatest finite number, an infinity. -/
def ofRatio (negative : Bool) (num den : Nat) : Binary64 :=
  if num = 0 then finite negative 0 minExponent
  else
    let e := exponentOf num den
    let m :=
      if 0 ≤ e then roundEven num (den * twoTo e.toNat)
      else roundEven (num * twoTo (-e).toNat) den
    let (m, e) := if m = twoTo 53 then (twoTo 52, e + 1) else (m, e)
    if maxExponent < e then infinite negative else finite negative m e

/-- The number nearest to a whole number. -/
def ofInt (n : Int) : Binary64 :=
  ofRatio (n < 0) n.natAbs 1

/-- The magnitude of `m * 2 ^ e` as a fraction. -/
def fraction (m : Nat) (e : Int) : Nat × Nat :=
  if 0 ≤ e then (m * twoTo e.toNat, 1) else (m, twoTo (-e).toNat)

/-- The number times `k`, rounded to the format. -/
def scale (x : Binary64) (k : Nat) : Binary64 :=
  match x with
  | finite negative m e => ofRatio negative ((fraction m e).1 * k) (fraction m e).2
  | other => other

/-- The number with the other sign. -/
def negate : Binary64 → Binary64
  | finite negative m e => finite (!negative) m e
  | infinite negative => infinite (!negative)
  | nan => nan

/-- The sum of two numbers, rounded to the format; of two zeros a negative one only if
both are. -/
def add : Binary64 → Binary64 → Binary64
  | finite s m e, finite t n f =>
    let (p, q) := fraction m e
    let (u, v) := fraction n f
    let sum : Int := (if s then -1 else 1) * (p * v : Nat) + (if t then -1 else 1) * (u * q : Nat)
    ofRatio (if sum = 0 then s && t else sum < 0) sum.natAbs (q * v)
  | nan, _ | _, nan => nan
  | infinite s, infinite t => if s = t then infinite s else nan
  | infinite s, _ | _, infinite s => infinite s

/-- The number is the whole number `n`. -/
def isInt (x : Binary64) (n : Int) : Bool :=
  match x with
  | finite negative m e =>
    let (p, q) := fraction m e
    (if negative then -(p : Int) else p) == n * q
  | _ => false

/-- The number is below the whole number `n`; a NaN is below nothing. -/
def ltNat (x : Binary64) (n : Nat) : Bool :=
  match x with
  | finite negative m e => (negative && m != 0) || (fraction m e).1 < n * (fraction m e).2
  | infinite negative => negative
  | nan => false

/-- The whole part of a finite number: what is left when its digits after the
point are dropped. -/
def truncate? : Binary64 → Option Int
  | finite negative m e =>
    let n : Int := ((fraction m e).1 / (fraction m e).2 : Nat)
    some (if negative then -n else n)
  | _ => none

end Binary64

end TexBuild
