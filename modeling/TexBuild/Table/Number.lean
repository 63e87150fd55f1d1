import TexBuild.Fault
import TexBuild.Text.LetterCase

-- After the constructors of whole and real numbers in PyYAML's safe loader.

namespace TexBuild.Table

/-- The text of a number without low lines, and whether it begins with a minus. -/
def bareNumber (text : String) : Except TableError (Bool × List Char) :=
  match text.toList.filter (· != '_') with
  | [] => .error .emptyNumeral
  | '-' :: cs => .ok (true, cs)
  | '+' :: cs => .ok (false, cs)
  | cs => .ok (false, cs)

/-- A whole number in a base. -/
def wholeIn (base : Nat) (cs : List Char) : Except TableError Int :=
  (Numeral.whole base (String.ofList cs)).mapError .noWhole

/-- The whole number that a text denotes: after a mark in binary or hexadecimal digits, after
a zero in octal ones, with colons in parts of which sixty make one of the part before, or
else in decimal digits. -/
def wholeOf (text : String) : Except TableError Int := do
  let (negative, cs) ← bareNumber text
  let n ← match cs with
    | ['0'] => pure 0
    | '0' :: 'b' :: digits => wholeIn 2 digits
    | '0' :: 'x' :: digits => wholeIn 16 digits
    | '0' :: _ => wholeIn 8 cs
    | [] => throw .emptyNumeral
    | cs =>
      if cs.contains ':' then do
        let parts ← (Text.pieces ':' cs).mapM (wholeIn 10)
        pure (parts.foldl (fun n part => 60 * n + part) 0)
      else wholeIn 10 cs
  return if negative then -n else n

/-- A number in the binary format. -/
def binaryOf (cs : List Char) : Except TableError Binary64 :=
  match Numeral.binary64? (String.ofList cs) with
  | some x => .ok x
  | none => .error (.noReal (String.ofList cs))

/-- A sixtieth part for every part before, the last part counting as it is. -/
def addSixties (parts : List Binary64) : Binary64 :=
  (parts.reverse.foldl (fun (sum : Binary64 × Nat) part =>
    (sum.1.add (part.scale sum.2), 60 * sum.2)) (.finite false 0 Binary64.minExponent, 1)).1

/-- The number in the binary format that a text denotes: an infinity or none at all behind a
point, with colons in sixtieths, or else a decimal numeral. -/
def realOf (text : String) : Except TableError Binary64 := do
  let (negative, cs) ← bareNumber text
  let cs := Text.lowered cs
  let x ←
    if cs = ".inf".toList then pure (.infinite false)
    else if cs = ".nan".toList then return .nan
    else if cs.contains ':' then addSixties <$> (Text.pieces ':' cs).mapM binaryOf
    else binaryOf cs
  return if negative then x.negate else x

end TexBuild.Table
