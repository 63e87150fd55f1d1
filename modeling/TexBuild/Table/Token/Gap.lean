import TexBuild.Fault
import TexBuild.Table.Mark

-- After PyYAML's scanner of the white space inside flow scalars and plain ones.

namespace TexBuild.Table

/-- White space inside a text that may go on over several lines: the blanks on its line,
or the first line end and those after it. Once the line is broken, blanks do not count. -/
structure Gap where
  blanks : List Char
  isBroken : Bool
  first : Option Char
  more : List Char
deriving DecidableEq

namespace Gap

/-- No white space. -/
def none : Gap := ⟨[], false, .none, []⟩

/-- A broken line of which the line end itself does not count. -/
def broken : Gap := ⟨[], true, .none, []⟩

/-- One more blank. -/
def addBlank (g : Gap) (c : Char) : Gap :=
  if g.isBroken then g else { g with blanks := c :: g.blanks }

/-- One more line end. -/
def addBreak (g : Gap) (c : Char) : Gap :=
  if g.isBroken then { g with more := c :: g.more } else ⟨[], true, .some c, []⟩

/-- What white space stands for: the blanks themselves; a blank for one line end; and one
line end less than there are, unless the first is a separator of lines or paragraphs. -/
def text (g : Gap) : List Char :=
  if g.isBroken then
    if g.first = .some '\n' then (if g.more = [] then [' '] else g.more.reverse)
    else g.first.toList ++ g.more.reverse
  else g.blanks.reverse

/-- Reads white space on. On a new line, a tab may not stand before the column `least`. -/
def read (least : Nat) : Gap → Source → Except TableError (Gap × Source)
  | g, [] => .ok (g, [])
  | g, m :: rest =>
    if isGap m.char then
      if g.isBroken ∧ m.column < least ∧ m.char = '\t' then .error .unscannable
      else read least (g.addBlank m.char) rest
    else if isBreak m.char then read least (g.addBreak m.char) rest
    else .ok (g, m :: rest)

@[simp] theorem text_none : none.text = [] := rfl

end Gap

end TexBuild.Table
