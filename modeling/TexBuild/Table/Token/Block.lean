import TexBuild.Fault
import TexBuild.Table.Mark

-- After PyYAML's scanner of block scalars.

namespace TexBuild.Table

/-- How the lines of a block of text are put together: whether they are joined to
paragraphs, whether the line ends at its end are all dropped, all kept or reduced to one,
and by how many columns the block is further in, if that is said. -/
structure Block where
  isFolded : Bool
  keepsEnd : Option Bool
  step : Option Nat
deriving DecidableEq

namespace Block

/-- Reads what is to be done with the line ends at the end. -/
def readEnd (s : Source) : Option Bool × Source :=
  if s.peek = '+' then (some true, s.drop 1)
  else if s.peek = '-' then (some false, s.drop 1)
  else (none, s)

/-- Reads by how many columns the block is further in; zero is none. -/
def readStep (s : Source) : Except TableError (Option Nat × Source) :=
  let c := s.peek
  if c = '0' then .error .unscannable
  else if c.isDigit then .ok (some (c.toNat - 0x30), s.drop 1)
  else .ok (none, s)

/-- Reads the line that opens a block, from its mark on. -/
def readHeader (s : Source) : Except TableError (Block × Source) := do
  let isFolded := s.peek == '>'
  let (keepsEnd, rest) := readEnd (s.drop 1)
  let (step, rest) ← readStep rest
  let (keepsEnd, rest) := if keepsEnd = none then readEnd rest else (keepsEnd, rest)
  match rest.restOfLine? with
  | some rest => return (⟨isFolded, keepsEnd, step⟩, rest)
  | none => throw .unscannable

/-- Reads empty lines and the blanks in front of a line, those before the column `indent`
if it is known. Told are the greatest column that blanks lead to and the line ends. -/
def skipEmpty (indent : Option Nat) : Nat → List Char → Source →
    Except TableError (Nat × List Char × Source)
  | widest, breaks, [] => .ok (widest, breaks.reverse, [])
  | widest, breaks, m :: rest =>
    let isBefore := indent.all fun i => m.column < i
    if isBefore && m.char == ' ' then skipEmpty indent widest breaks rest
    else if isBefore && m.char == '\t' then .error .unscannable
    else if isBreak m.char then skipEmpty indent (max widest m.column) (m.char :: breaks) rest
    else .ok (max widest m.column, breaks.reverse, m :: rest)

/-- What stands between two lines that no empty line parts: the line end, or a blank for it
where lines are joined and neither line begins with a blank. -/
def joint (isFolded startsWithGap nextStartsWithGap : Bool) (lineEnd breaks : List Char) :
    List Char :=
  if isFolded ∧ lineEnd.head? = some '\n' ∧ !startsWithGap ∧ !nextStartsWithGap then
    (if breaks = [] then [' '] else [])
  else lineEnd

/-- Reads the lines of a block at the column `indent`. The line before ended with `lineEnd`
and the empty lines after it with `breaks`. Told are the text, both for the last line, and
what follows. -/
def lines (isFolded : Bool) (indent : Nat) : Nat → Bool → List Char → List Char → Source →
    Except TableError (List Char × List Char × List Char × Source)
  | 0, _, lineEnd, breaks, s => .ok ([], lineEnd, breaks, s)
  | fuel + 1, startsWithGap, lineEnd, breaks, s =>
    if s.head.column = indent ∧ s.peek ≠ endChar then do
      let begins := isGap s.peek
      let before := joint isFolded startsWithGap begins lineEnd breaks ++ breaks
      let (line, rest) := s.takeChars fun c => !isLineEnd c
      let lineEnd := if isBreak rest.peek then [rest.peek] else []
      let (_, breaks, rest) ← skipEmpty (some indent) 0 [] (rest.drop lineEnd.length)
      let (more, lineEnd, breaks, after) ← lines isFolded indent fuel begins lineEnd breaks rest
      return (before ++ line ++ more, lineEnd, breaks, after)
    else .ok ([], lineEnd, breaks, s)

/-- Reads a block of text, from its mark on. Its lines begin at the column that its first
line says, or that the widest line of blanks before them reaches, but behind the column
`least`, at which its surroundings could go on. -/
def read (least : Nat) (s : Source) : Except TableError (List Char × Source) := do
  let (b, rest) ← readHeader s
  let known := b.step.map fun n => n + (least - 1)
  let (widest, breaks, rest) ← skipEmpty known 0 [] rest
  let indent := known.getD (max widest (max least 1))
  let (text, lineEnd, breaks, after) ← lines b.isFolded indent s.length false [] breaks rest
  let lineEnd := if b.keepsEnd = some false then [] else lineEnd
  let breaks := if b.keepsEnd = some true then breaks else []
  return (text ++ lineEnd ++ breaks, after)

end Block

end TexBuild.Table
