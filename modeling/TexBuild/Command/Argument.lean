import TexBuild.Host
import TexBuild.Number.Numeral

namespace TexBuild.Command.Argument

/-- A text without its underscores; nothing when one of them stands at an end or
beside another one. -/
def withoutUnderscores? (cs : List Char) : Option (List Char) :=
  let inner : List Char → Bool := fun ds => ds.head? != some '_' && ds.getLast? != some '_'
  let lone := (cs.zip (cs.drop 1)).all fun p => p != ('_', '_')
  if inner cs && lone then some (cs.filter (· != '_')) else none

/-- What is left of a numeral once the zeros and underscores after its first zero
are dropped. The zero before a point and the last character stay. -/
def afterZeros? : List Char → Option (List Char)
  | [] => none
  | [c] => some [c]
  | c :: d :: rest =>
    if d = '0' ∨ d = '_' then afterZeros? (d :: rest)
    else if d = '.' then some (c :: d :: rest)
    else if d.isDigit then some (d :: rest)
    else none

/-- A numeral without the zeros before its value; nothing when it begins with
neither a digit nor a minus sign. -/
def withoutLeadingZeros? : List Char → Option (List Char)
  | [] => none
  | c :: rest =>
    if c = '0' then afterZeros? (c :: rest)
    else if c.isDigit ∨ c = '-' then some (c :: rest)
    else none

/-- A numeral without a point after which there are at most zeros. -/
def withoutZeroPlaces (cs : List Char) : List Char :=
  match cs.dropWhile (· != '.') with
  | _ :: places => if places.all (· == '0') then cs.takeWhile (· != '.') else cs
  | [] => cs

/-- A numeral without a plus sign before it. -/
def withoutPlus : List Char → List Char
  | '+' :: rest => rest
  | cs => cs

/-- The value of plain decimal digits, perhaps after a sign. -/
def ofDigits? (cs : List Char) : Option Int :=
  let (negative, digits) := Numeral.sign cs
  if digits ≠ [] ∧ digits.all Char.isDigit then
    let n : Int := valueOfDigits digits
    some (if negative then -n else n)
  else none

/-- A whole number. Blanks may stand around it, underscores between its digits,
and a point with zeros after it. -/
def whole? (s : String) : Option Int := do
  let cs := Numeral.withoutMargins s.toList
  if Numeral.wholeLimit < (String.ofList cs).utf8ByteSize then none
  else
    let digits ← withoutLeadingZeros? (withoutPlus cs)
    ofDigits? (← withoutUnderscores? (withoutZeroPlaces digits))

/-- The value of a decimal numeral, an infinity or a NaN in plain letters. -/
def ofNumeral? (cs : List Char) : Option Binary64 :=
  let (negative, rest) := Numeral.sign cs
  let word := String.ofList (rest.map Char.toLower)
  if word = "inf" ∨ word = "infinity" then some (.infinite negative)
  else if word = "nan" then some .nan
  else Numeral.unsigned? negative rest

/-- A binary number, with blanks around it or else with underscores in it. -/
def number? (s : String) : Option Binary64 :=
  match ofNumeral? (Numeral.withoutMargins s.toList) with
  | some x => some x
  | none => (withoutUnderscores? s.toList).bind ofNumeral?

/-- The least time that a build may be given: the binary number nearest to a tenth
of a second. -/
def leastLimit : Binary64 :=
  Binary64.ofRatio false 1 10

/-- A binary number is below another one; whatever is no number is. -/
def isBelow (x least : Binary64) : Bool :=
  match x, least with
  | .nan, _ => true
  | .infinite negative, _ => negative
  | .finite negative m e, .finite _ m' e' =>
    let (a, b) := Binary64.fraction m e
    let (c, d) := Binary64.fraction m' e'
    negative || decide (a * d < c * b)
  | .finite .., _ => false

/-- A limit on time that is long enough. -/
def limit? (s : String) : Option Seconds :=
  (number? s).bind fun x => if isBelow x leastLimit then none else some (.binary x)

/-- A path that may be used: the system can read its name, and what is there has to be
readable. -/
def path? (h : Host) (s : String) : Option Path :=
  let p := Path.ofString s
  if !Volume.isClean p then none
  else
    match h.volume.find h.cwd p.text with
    | .ok (_, e) => if Volume.mayRead (h.volume.modeOf e) then some p else none
    | .error _ => some p

/-- A path that may be used and leads to something other than a directory. -/
def file? (h : Host) (s : String) : Option Path :=
  (path? h s).bind fun p =>
    match h.volume.find h.cwd p.text with
    | .ok (_, .directory _) | .error _ => none
    | .ok _ => some p

/-- A value that is read if it is given; nothing when it cannot be. -/
def optional {α : Type} (read : String → Option α) : Option String → Option (Option α)
  | none => some none
  | some s => (read s).map some

end TexBuild.Command.Argument
