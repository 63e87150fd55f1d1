import TexBuild.Table.Token.Gap

-- After PyYAML's scanner of plain scalars.

namespace TexBuild.Table.Plain

/-- Characters with a meaning between brackets. -/
def isBracketMark (c : Char) : Bool :=
  [',', '[', ']', '\x7b', '\x7d'].contains c

/-- A character that begins no word by itself. -/
def isIndicator (c : Char) : Bool :=
  isBracketMark c ||
    ['-', '?', ':', '#', '&', '*', '!', '|', '>', '\'', '"', '%', '@', '\x60'].contains c

/-- A text without quotes begins here. -/
def starts (inBrackets : Bool) (s : Source) : Bool :=
  let c := s.peek
  (!isWordEnd c && !isIndicator c) || (c == '-' && !isGap (s.peekAt 1)) ||
    (!inBrackets && (c == '?' || c == ':') && !isWordEnd (s.peekAt 1))

/-- Reads a word: up to white space, to a colon before white space and, between brackets,
to a mark of theirs. There a colon may not stand before such a mark or a question mark. -/
def word (inBrackets : Bool) : Source → Except TableError (List Char × Source)
  | [] => .ok ([], [])
  | m :: rest =>
    let next := Source.peek rest
    if isWordEnd m.char then .ok ([], m :: rest)
    else if inBrackets && m.char == ':' && (isBracketMark next || next == '?') then
      .error .unscannable
    else if (m.char == ':' && isWordEnd next) || (inBrackets && isBracketMark m.char) then
      .ok ([], m :: rest)
    else do
      let (cs, after) ← word inBrackets rest
      return (m.char :: cs, after)

/-- Reads words on, the white space `gap` standing before them. Outside brackets they go on
over the lines that begin at the column `least` or behind it. Told are also what follows and
whether a line was broken last. -/
def words (inBrackets : Bool) (least : Nat) :
    Nat → Gap → Source → Except TableError (List Char × Bool × Source)
  | 0, gap, s => .ok ([], gap.isBroken, s)
  | fuel + 1, gap, s =>
    if s.startsAnyMarker || s.peek == '#' then .ok ([], gap.isBroken, s)
    else do
      let (cs, rest) ← word inBrackets s
      let text := if cs = [] then [] else gap.text ++ cs
      let gap := if cs = [] then gap else Gap.none
      if !isGap rest.peek && !isBreak rest.peek then return (text, gap.isBroken, rest)
      else
        let (gap, rest) ← gap.read least rest
        if !inBrackets && rest.head.column < least then return (text, gap.isBroken, rest)
        else
          let (more, isBroken, after) ← words inBrackets least fuel gap rest
          return (text ++ more, isBroken, after)

/-- Reads a text without quotes. -/
def read (inBrackets : Bool) (least : Nat) (s : Source) :
    Except TableError (List Char × Bool × Source) :=
  words inBrackets least s.length Gap.none s

end TexBuild.Table.Plain
