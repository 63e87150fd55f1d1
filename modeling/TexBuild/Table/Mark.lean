-- The notation of install tables is that of the package PyYAML. Embedded of it are the reader and the
-- scanner of its safe loader (`Mark`, `Token`), its parser and composer (`Tree`), its implicit resolver
-- (`Tag`) and its constructor (`Value`, `Number`, `Instant`), with the changes that the package OmegaConf
-- makes to the loader: its numerals, no keys twice, and a limit to the values of a document.

namespace TexBuild.Table

/-- A character of a document and the place at which it stands. -/
structure Mark where
  char : Char
  index : Nat
  line : Nat
  column : Nat
deriving DecidableEq

/-- A document from some character on. Its last mark is the end of the document,
with a character that may not stand in one. -/
abbrev Source := List Mark

/-- The character of the mark at the end. -/
def endChar : Char := Char.ofNat 0

/-- The mark that may stand in front of a document. -/
def orderMark : Char := Char.ofNat 0xFEFF

/-- A blank within a line. -/
def isGap (c : Char) : Bool :=
  c == ' ' || c == '\t'

/-- A line end, when line feeds and next-line characters count as one. -/
def isBreak (c : Char) : Bool :=
  c == '\n' || c.toNat == 0x2028 || c.toNat == 0x2029

/-- The line or the document ends. -/
def isLineEnd (c : Char) : Bool :=
  isBreak c || c == endChar

/-- A word ends: by a blank, with the line or with the document. -/
def isWordEnd (c : Char) : Bool :=
  isGap c || isLineEnd c

/-- A character of a name. -/
def isNameChar (c : Char) : Bool :=
  c.isAlphanum || c == '_' || c == '-'

/-- A character that may stand in a document. -/
def isPrintable (c : Char) : Bool :=
  let n := c.toNat
  c == '\t' || c == '\n' || c == '\r' || (0x20 ≤ n && n ≤ 0x7E) || n == 0x85 ||
    (0xA0 ≤ n && n ≤ 0xFFFD) || 0x10000 ≤ n

namespace Source

/-- The characters with their places. A carriage return, a line feed, the one before the
other, or a next-line character is a line feed; the document ends on a new line. -/
def marks : Nat → Nat → Nat → List Char → Source
  | index, line, column, [] =>
    [if column = 0 then ⟨endChar, index, line, 0⟩ else ⟨endChar, index, line + 1, 0⟩]
  | index, line, column, '\r' :: '\n' :: rest =>
    ⟨'\n', index, line, column⟩ :: marks (index + 2) (line + 1) 0 rest
  | index, line, column, c :: rest =>
    let c := if c = '\r' ∨ c.toNat = 0x85 then '\n' else c
    ⟨c, index, line, column⟩ ::
      if isBreak c then marks (index + 1) (line + 1) 0 rest
      else marks (index + 1) line (column + 1) rest

/-- A document with the places of its characters. -/
def ofChars (cs : List Char) : Source :=
  marks 0 0 0 (if cs.head? = some orderMark then cs.drop 1 else cs)

/-- The mark at the beginning. -/
def head (s : Source) : Mark :=
  s.headD ⟨endChar, 0, 0, 0⟩

/-- The character at the beginning. -/
def peek (s : Source) : Char :=
  s.head.char

/-- The `n`-th character, the first one being that at the beginning. -/
def peekAt (n : Nat) (s : Source) : Char :=
  Source.peek (s.drop n)

/-- The characters from the beginning on that belong to a class, and what follows them. -/
def takeChars (p : Char → Bool) (s : Source) : List Char × Source :=
  ((s.takeWhile fun m => p m.char).map (·.char), s.dropWhile fun m => p m.char)

/-- Three dashes or dots begin a line and are a word of their own. -/
def startsMarker (c : Char) (s : Source) : Bool :=
  s.head.column == 0 && (s.take 3).map (·.char) == [c, c, c] && isWordEnd (s.peekAt 3)

/-- A document begins or ends here. -/
def startsAnyMarker (s : Source) : Bool :=
  s.startsMarker '-' || s.startsMarker '.'

/-- What is left of a line that may only hold a comment. -/
def restOfLine? (s : Source) : Option Source :=
  let s := (s.takeChars isGap).2
  let s := if s.peek = '#' then (s.takeChars fun c => !isLineEnd c).2 else s
  if isBreak s.peek then some (s.drop 1)
  else if s.peek = endChar then some s
  else none

end Source

end TexBuild.Table
