import TexBuild.Text.CodePoint
import TexBuild.Text.Printable

namespace TexBuild.Quoted

/-- The digit of a hexadecimal numeral, in small letters. -/
def hexDigit (n : Nat) : Char :=
  if n < 10 then Char.ofNat (0x30 + n) else Char.ofNat (0x57 + n)

/-- The last `width` digits of `n` in base sixteen. -/
def hexDigits : Nat → Nat → List Char
  | 0, _ => []
  | width + 1, n => hexDigits width (n / 16) ++ [hexDigit (n % 16)]

/-- A character inside quotes of the kind `quote`: the backslash and the quote
get a backslash, the three usual controls a letter, and whatever cannot be shown
the shortest of three hexadecimal escapes. -/
def escape (quote c : Char) : List Char :=
  if c = '\\' ∨ c = quote then ['\\', c]
  else if c = '\n' then ['\\', 'n']
  else if c = '\r' then ['\\', 'r']
  else if c = '\t' then ['\\', 't']
  else if isPrintable c then [c]
  else if c.toNat < 0x100 then ['\\', 'x'] ++ hexDigits 2 c.toNat
  else if c.toNat < 0x10000 then ['\\', 'u'] ++ hexDigits 4 c.toNat
  else ['\\', 'U'] ++ hexDigits 8 c.toNat

/-- The quote around a text: the single one, unless the text holds it and does
not hold the double one. -/
def quoteFor (cs : List Char) : Char :=
  if cs.contains '\'' && !cs.contains '"' then '"' else '\''

/-- A character of a text that a caller gives, inside quotes of the kind `quote`; half of a pair
of surrogates is shown by its number. -/
def escapePoint (quote : Char) : CodePoint → List Char
  | .character c => escape quote c
  | .surrogate k => ['\\', 'u'] ++ hexDigits 4 (0xD800 + k)

/-- A text between quotes, on one line and in visible characters only. -/
def encode (cs : List Char) : List Char :=
  let quote := quoteFor cs
  quote :: (CodePoint.ofChars cs).flatMap (escapePoint quote) ++ [quote]

/-- An octet inside quotes of the kind `quote`: as the ASCII character with its number, if
that can be shown, or else as an escape. -/
def escapeOctet (quote : Char) (b : UInt8) : List Char :=
  let c := Char.ofNat b.toNat
  if b < 0x7F then escape quote c else ['\\', 'x'] ++ hexDigits 2 b.toNat

/-- Octets between quotes behind a letter that tells them from a text. -/
def encodeOctets (bs : List UInt8) : List Char :=
  let quote := quoteFor (bs.map fun b => Char.ofNat b.toNat)
  'b' :: quote :: bs.flatMap (escapeOctet quote) ++ [quote]

end TexBuild.Quoted

/-- The text between quotes, as it stands in messages. -/
def TexBuild.quoted (s : String) : String :=
  String.ofList (Quoted.encode s.toList)
