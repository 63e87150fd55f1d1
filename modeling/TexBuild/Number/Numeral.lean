import TexBuild.Text.Blank
import TexBuild.Text.Digit
import TexBuild.Text.LetterCase
import TexBuild.Number.Binary64

namespace TexBuild.Numeral

/-- A blank that may stand around a numeral: all but the separators of ASCII. -/
def isMargin (c : Char) : Bool :=
  isBlank c && !(0x1C ≤ c.toNat && c.toNat ≤ 0x1F)

/-- A text without the blanks around a numeral. -/
def withoutMargins (cs : List Char) : List Char :=
  ((cs.dropWhile isMargin).reverse.dropWhile isMargin).reverse

/-- A text without the underscores that group its digits, each of which must
stand between two digits. -/
def ungroup? : List Char → Option (List Char)
  | [] => some []
  | '_' :: _ => none
  | [c] => some [c]
  | c :: '_' :: d :: rest =>
    if c.isDigit ∧ d.isDigit then (ungroup? (d :: rest)).map (c :: ·) else none
  | c :: rest => (ungroup? rest).map (c :: ·)

/-- A sign, if the text begins with one, and what follows it. -/
def sign : List Char → Bool × List Char
  | '-' :: rest => (true, rest)
  | '+' :: rest => (false, rest)
  | rest => (false, rest)

/-- The power of ten at the end of a numeral: nothing, or the letter e and a
whole number. -/
def power? : List Char → Option Int
  | [] => some 0
  | e :: rest =>
    if e = 'e' ∨ e = 'E' then
      let (negative, digits) := sign rest
      if digits ≠ [] ∧ digits.all Char.isDigit then
        let n : Int := valueOfDigits digits
        some (if negative then -n else n)
      else none
    else none

/-- The binary number nearest to `digits * 10 ^ power`. Powers that put every
number of so many digits out of the range of the format are not computed. -/
def nearest (negative : Bool) (digits : List Char) (power : Int) : Binary64 :=
  let c := valueOfDigits digits
  let size : Int := digits.length
  if c = 0 then .finite negative 0 Binary64.minExponent
  else if 400 < power then .infinite negative
  else if size + power < -400 then .finite negative 0 Binary64.minExponent
  else if 0 ≤ power then Binary64.ofRatio negative (c * tenTo power.toNat) 1
  else Binary64.ofRatio negative c (tenTo (-power).toNat)

/-- The value of an unsigned decimal numeral: digits with a point among them or
at either end, at least one digit, and perhaps a power of ten. -/
def unsigned? (negative : Bool) (cs : List Char) : Option Binary64 :=
  let whole := cs.takeWhile Char.isDigit
  let (places, rest) := match cs.dropWhile Char.isDigit with
    | '.' :: after => (after.takeWhile Char.isDigit, after.dropWhile Char.isDigit)
    | after => ([], after)
  if whole ++ places = [] then none
  else (power? rest).map fun p => nearest negative (whole ++ places) (p - places.length)

/-- The binary number that a text denotes: a decimal numeral, an infinity or a
NaN, with blanks around it, a sign, digits of any script and single underscores
between digits. -/
def binary64? (s : String) : Option Binary64 :=
  match ungroup? (westernDigits (withoutMargins s.toList)) with
  | none => none
  | some cs =>
    let (negative, rest) := sign cs
    let word := String.ofList (rest.map Char.toLower)
    if word = "inf" ∨ word = "infinity" then some (.infinite negative)
    else if word = "nan" then some .nan
    else unsigned? negative rest

/-- Why a text denotes no whole number: it is no numeral of the base, or it has more
digits than are read. -/
inductive WholeError where
  | notANumeral (base : Nat) (text : String)
  | long (digits : Nat)
deriving DecidableEq

/-- The most decimal digits of a whole number that are read. -/
def wholeLimit : Nat := 4300

/-- The value of a digit, for which the letters of the alphabet go on after nine. -/
def digitValue (c : Char) : Nat :=
  if c.isDigit then c.toNat - 0x30
  else if c.isAlpha then c.toLower.toNat - 0x57
  else 36

/-- The letter after a zero that marks a base. -/
def baseMark (base : Nat) : Option Char :=
  [(2, 'b'), (8, 'o'), (16, 'x')].lookup base

/-- The digits of a numeral without the mark of its base. -/
def withoutBaseMark (base : Nat) : List Char → List Char
  | '0' :: m :: digits => if baseMark base = some m.toLower then digits else '0' :: m :: digits
  | digits => digits

/-- The whole number that a text denotes in a base, with blanks around it, a sign,
digits of any script and single underscores between digits. -/
def whole (base : Nat) (s : String) : Except WholeError Int :=
  let (negative, rest) := sign (westernDigits (withoutMargins s.toList))
  match ungroup? (withoutBaseMark base rest) with
  | none => .error (.notANumeral base s)
  | some digits =>
    if digits.isEmpty || digits.any (fun c => base ≤ digitValue c) then
      .error (.notANumeral base s)
    else if base = 10 ∧ wholeLimit < digits.length then .error (.long digits.length)
    else
      let n := digits.foldl (fun (n : Nat) c => base * n + digitValue c) 0
      .ok (if negative then -(n : Int) else n)

end TexBuild.Numeral
