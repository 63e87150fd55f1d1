import TexBuild.Fault
import TexBuild.Number.Numeral
import TexBuild.Table.Mark
import TexBuild.Table.Token

-- After PyYAML's scanner of anchors, tags and directives.

namespace TexBuild.Table.Token

/-- Reads the name of an anchor or of a reference to one, from its mark on. -/
def readName (s : Source) : Except TableError (String × Source) :=
  let (name, rest) := Source.takeChars isNameChar (s.drop 1)
  let fits := isWordEnd rest.peek ||
    ['?', ':', ',', ']', '\x7d', '%', '@', '\x60'].contains rest.peek
  if name.isEmpty || !fits then .error .unscannable else .ok (String.ofList name, rest)

/-- A character of a tag besides those of names; brackets and commas only stand in one
between angles. -/
def isTagMark (isBare : Bool) (c : Char) : Bool :=
  [';', '/', '?', ':', '@', '&', '=', '+', '$', '.', '!', '~', '*', '\'', '(', ')'].contains c ||
    (isBare && [',', '[', ']'].contains c)

/-- An octet written as two hexadecimal digits behind a percent sign. -/
def octet? (s : Source) : Option UInt8 :=
  match (s.take 3).map (·.char) with
  | ['%', a, b] =>
    let high := Numeral.digitValue a
    let low := Numeral.digitValue b
    if high < 16 ∧ low < 16 then some (16 * high + low).toUInt8 else none
  | _ => none

/-- How many octets encode the character whose first octet is given. -/
def octetCount (b : UInt8) : Option Nat :=
  if b < 0x80 then some 1
  else if b < 0xC0 then none
  else if b < 0xE0 then some 2
  else if b < 0xF0 then some 3
  else if b < 0xF8 then some 4
  else none

/-- Reads the octets of one character after its first. -/
def moreOctets : Nat → Source → Option (List UInt8 × Source)
  | 0, s => some ([], s)
  | n + 1, s => do
    let b ← octet? s
    if b < 0x80 ∨ 0xC0 ≤ b then none
    else
      let (bs, rest) ← moreOctets n (s.drop 3)
      return (b :: bs, rest)

/-- Reads the text of a tag as far as it goes. -/
def tagText (isBare : Bool) : Nat → Source → Except TableError (List Char × Source)
  | 0, s => .ok ([], s)
  | fuel + 1, s =>
    let c := s.peek
    if isNameChar c || isTagMark isBare c then do
      let (cs, rest) ← tagText isBare fuel (s.drop 1)
      return (c :: cs, rest)
    else if c = '%' then
      match (octet? s).bind fun b => (octetCount b).map fun n => (b, n) with
      | none => .error .unscannable
      | some (b, n) =>
        match moreOctets (n - 1) (s.drop 3) with
        | none => .error .unscannable
        | some (bs, rest) => do
          let (cs, rest) ← tagText isBare fuel rest
          return (Utf8.decode (b :: bs) ++ cs, rest)
    else .ok ([], s)

/-- Reads the text of a tag, which may not be empty. -/
def someTagText (isBare : Bool) (s : Source) : Except TableError (List Char × Source) := do
  let (cs, rest) ← tagText isBare s.length s
  if cs = [] then throw .unscannable
  return (cs, rest)

/-- Reads the handle of a tag: a name between exclamation marks, the second of which may
lack. -/
def handleText (s : Source) : List Char × Source :=
  let (name, rest) := Source.takeChars isNameChar (s.drop 1)
  if rest.peek = '!' then ('!' :: name ++ ['!'], rest.drop 1) else ('!' :: name, rest)

/-- Reads a tag from its exclamation mark on: a whole one between angles, a handle and what
it begins, or what the single mark begins. The mark alone is a whole tag. -/
def readTag (inBrackets : Bool) (s : Source) : Except TableError (Token × Source) := do
  let (start, suffix, rest) : List Char × List Char × Source ←
    if s.peekAt 1 = '<' then do
      let (cs, rest) ← someTagText true (s.drop 2)
      if rest.peek ≠ '>' then throw .unscannable
      pure ([], cs, rest.drop 1)
    else
      let (start, rest) := handleText s
      if 1 < start.length ∧ start.getLast? = some '!' then do
        let (cs, rest) ← someTagText false rest
        pure (start, cs, rest)
      else do
        let (cs, rest) ← tagText false rest.length rest
        let suffix := start.drop 1 ++ cs
        pure (if suffix = [] then ([], ['!'], rest) else (['!'], suffix, rest))
  unless isWordEnd rest.peek || (inBrackets && rest.peek == ',') do throw .unscannable
  return (.tag (String.ofList start) (String.ofList suffix), rest)

/-- The most digits of a part of a version. -/
def versionDigits : Nat := 9

/-- Reads a part of a version. -/
def versionPart (s : Source) : Except TableError (Nat × Source) :=
  let (digits, rest) := s.takeChars Char.isDigit
  if digits.isEmpty || versionDigits < digits.length then .error .unscannable
  else .ok (valueOfDigits digits, rest)

/-- Reads the version of the notation that a document says it is in. -/
def readVersion (s : Source) : Except TableError (Token × Source) := do
  let (major, rest) ← versionPart s
  unless rest.peek = '.' do throw .unscannable
  let (minor, rest) ← versionPart (rest.drop 1)
  return (.version major minor, rest)

/-- Reads a handle for tags and what it stands for. -/
def readHandle (s : Source) : Except TableError (Token × Source) := do
  unless s.peek = '!' do throw .unscannable
  let (name, rest) := handleText s
  unless name.getLast? = some '!' do throw .unscannable
  unless isGap rest.peek do throw .unscannable
  let (start, rest) ← someTagText true (rest.takeChars isGap).2
  unless isWordEnd rest.peek do throw .unscannable
  return (.handle (String.ofList name) (String.ofList start), rest)

/-- Reads a line that tells how a document is to be read, from its percent sign on. -/
def readDirective (s : Source) : Except TableError (Token × Source) := do
  let (name, rest) := Source.takeChars isNameChar (s.drop 1)
  unless isWordEnd rest.peek do throw .unscannable
  let inner := (rest.takeChars isGap).2
  let (token, rest) ←
    if name = "YAML".toList then readVersion inner
    else if name = "TAG".toList then readHandle inner
    else throw .unscannable
  match rest.restOfLine? with
  | some rest => return (token, rest)
  | none => throw .unscannable

end TexBuild.Table.Token
