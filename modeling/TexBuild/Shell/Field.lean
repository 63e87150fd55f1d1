import TexBuild.Shell.Pattern
import TexBuild.Shell.State

namespace TexBuild.Shell

/-- The characters at which values are cut: a run of soft ones cuts once, each hard
one cuts for itself. -/
structure Gaps where
  soft : List Char
  hard : List Char

namespace Gaps

/-- A blank character, soft where values are cut at it. -/
def isBlank (c : Char) : Bool :=
  c == ' ' || c == '\t' || c == '\n'

/-- The gaps that a text lists; without one they are the blanks. -/
def ofText? : Option (List Char) → Gaps
  | some cs => ⟨cs.filter isBlank, cs.filter fun c => !isBlank c⟩
  | none => ⟨[' ', '\t', '\n'], []⟩

def isSoft (g : Gaps) (c : Char) : Bool :=
  g.soft.contains c

def isHard (g : Gaps) (c : Char) : Bool :=
  g.hard.contains c

/-- A text without the soft gaps at its beginning. -/
def trimStart (g : Gaps) (cs : List Char) : List Char :=
  cs.dropWhile g.isSoft

/-- A text without the soft gaps at both ends. -/
def trim (g : Gaps) (cs : List Char) : List Char :=
  ((g.trimStart cs).reverse.dropWhile g.isSoft).reverse

/-- The first piece of a text and what follows the gap after it. -/
def split (g : Gaps) (cs : List Char) : List Char × List Char :=
  let inner := g.trimStart cs
  let word := inner.takeWhile fun c => !(g.isSoft c || g.isHard c)
  match g.trimStart (inner.drop word.length) with
  | [] => (word, [])
  | c :: rest => (word, if g.isHard c then g.trimStart rest else c :: rest)

end Gaps

/-- What words expand to before they are cut into fields: a character that stands
in the script, one that comes from a value, one between quotes, quotes around
nothing, and the end of a field. -/
inductive Mark where
  | plain (c : Char)
  | loose (c : Char)
  | fixed (c : Char)
  | edge
  | cut
deriving DecidableEq

/-- A field: its characters, with those that were quoted. -/
abbrev Field := List PatternChar

namespace Mark

/-- The character of a mark for a pattern. -/
def patternChar? : Mark → Option PatternChar
  | plain c | loose c => some ⟨c, false⟩
  | fixed c => some ⟨c, true⟩
  | edge | cut => none

/-- The characters of marks that are not cut into fields. -/
def text (marks : List Mark) : List Char :=
  marks.filterMap fun
    | plain c | loose c | fixed c => some c
    | cut => some ' '
    | edge => none

/-- The fields of marks: the one at hand, if there is one, and those before it,
newest first. After a soft gap the next hard one belongs to it. -/
def fieldsFrom (g : Gaps) : List Mark → Option Field → Bool → List Field → List Field
  | [], none, _, done => done.reverse
  | [], some field, _, done => (field.reverse :: done).reverse
  | cut :: rest, none, _, done => fieldsFrom g rest none false done
  | cut :: rest, some field, _, done => fieldsFrom g rest none false (field.reverse :: done)
  | edge :: rest, field, _, done => fieldsFrom g rest (some (field.getD [])) false done
  | loose c :: rest, field, softly, done =>
    if g.isSoft c then
      match field with
      | none => fieldsFrom g rest none softly done
      | some cs => fieldsFrom g rest none true (cs.reverse :: done)
    else if g.isHard c then
      match field, softly with
      | none, true => fieldsFrom g rest none false done
      | _, _ => fieldsFrom g rest none false ((field.getD []).reverse :: done)
    else fieldsFrom g rest (some (⟨c, false⟩ :: field.getD [])) false done
  | plain c :: rest, field, _, done =>
    fieldsFrom g rest (some (⟨c, false⟩ :: field.getD [])) false done
  | fixed c :: rest, field, _, done =>
    fieldsFrom g rest (some (⟨c, true⟩ :: field.getD [])) false done

/-- The fields of marks. -/
def fields (g : Gaps) (marks : List Mark) : List Field :=
  fieldsFrom g marks none false []

end Mark

namespace Field

/-- The characters of a field. -/
def chars (f : Field) : List Char :=
  f.map PatternChar.char

/-- A field in which a character stands for others. -/
def isPattern (f : Field) : Bool :=
  f.any fun c => !c.quoted && (c.char == '*' || c.char == '?' || c.char == '[')

/-- The pieces of a field between slashes. -/
def components (f : Field) : List Field :=
  f.foldr (fun c pieces => match pieces with
    | piece :: rest => if c.char = '/' then [] :: piece :: rest else (c :: piece) :: rest
    | [] => [[c]]) [[]]

/-- The names in a directory that fit a pattern, in order. A dot at the beginning of
a name has to stand in the pattern. -/
def namesFitting (s : State) (directory : List Char) (f : Field) : List (List Char) :=
  let path := if directory = [] then "." else Octet.toText directory
  match s.volume.find s.cwd path with
  | .ok (loc, .directory mode) =>
    let ms := pattern f
    let names := ((s.volume.namesIn loc).map fun n => Octet.ofText n.text).filter fun name =>
      Matcher.fits ms name && (name.head? != some '.' || (f.chars).head? == some '.')
    if Volume.mayRead mode then names.mergeSort fun a b => !decide (b < a) else []
  | _ => []

/-- The paths that begin as given and fit the components to come. -/
def pathsFrom (s : State) : List Field → List Char → List (List Char)
  | [], path =>
    match s.volume.findLink s.cwd (Octet.toText path) with
    | .ok _ => [path]
    | .error _ => []
  | f :: rest, path =>
    let ends := if rest = [] then [] else ['/']
    if f.isPattern then
      (namesFitting s path f).flatMap fun name => pathsFrom s rest (path ++ name ++ ends)
    else pathsFrom s rest (path ++ f.chars ++ ends)

/-- The texts that a field stands for: the paths that fit it, or itself when there
are none. -/
def texts (s : State) (f : Field) : List (List Char) :=
  if f.isPattern && !s.options.contains 'f' then
    match pathsFrom s f.components [] with
    | [] => [f.chars]
    | paths => paths
  else [f.chars]

end Field

end TexBuild.Shell
