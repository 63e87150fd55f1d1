import TexBuild.Text.Octet
import TexBuild.Volume.Change

namespace TexBuild

/-- A program as the system starts it: the file that was named, the utility that
runs in the end, and the words that stand for the command on its command line. A
script is run by its interpreter, which finds the script's path there. -/
structure Image where
  file : Loc
  utility : String
  words : List String
deriving DecidableEq

namespace Volume

/-- The octets that every utility of the system begins with; its name follows. -/
def utilityMark : List Char :=
  [Char.ofNat 0x7F, 'E', 'L', 'F']

/-- The content of the file of a utility. -/
def utilityBytes (name : String) : List UInt8 :=
  Octet.toBytes (utilityMark ++ name.toList)

/-- The octets of a script's first line that count. -/
def headLimit : Nat := 256

def isGap (c : Char) : Bool :=
  c == ' ' || c == '\t'

/-- The interpreter that the first line of a script asks for, and the one argument
that it may get. -/
def interpreter? (cs : List Char) : Option (List Char × List Char) :=
  match cs.take headLimit with
  | '#' :: '!' :: rest =>
    let line := (rest.takeWhile (· != '\n')).dropWhile isGap
    let path := line.takeWhile fun c => !isGap c
    let argument := ((line.drop path.length).dropWhile isGap).reverse.dropWhile isGap
    some (path, argument.reverse)
  | _ => none

/-- The most interpreters that one script may lead through. -/
def interpreterLimit : Nat := 5

/-- The file that a path leads to, if it may be run, and what it holds. -/
def program (v : Volume) (cwd : Loc) (path : String) : Except Errno (Loc × FileData) := do
  let (loc, e) ← v.find cwd path
  match e with
  | .file id =>
    match v.data? id with
    | none => throw .noEntry
    | some d => if mayEnter d.mode then return (loc, d) else throw .accessDenied
  | _ => throw .accessDenied

/-- What starts when a path is run, where so many files may be read for it, one after another.
One more must be there and fit to be run, but is not read. -/
def loadWith (v : Volume) (cwd : Loc) : Nat → String → Except Errno Image
  | 0, path => do
    let _ ← v.program cwd path
    throw .linkLoop
  | depth + 1, path => do
    let (loc, d) ← v.program cwd path
    let cs := Octet.ofBytes d.bytes
    if utilityMark.isPrefixOf cs then
      return ⟨loc, Octet.toText (cs.drop utilityMark.length), [path]⟩
    match interpreter? cs with
    | none | some ([], _) => throw .noFormat
    | some (interpreter, argument) => do
      let inner ← loadWith v cwd depth (Octet.toText interpreter)
      let extra := if argument = [] then [] else [Octet.toText argument]
      return ⟨loc, inner.utility, inner.words ++ extra ++ [path]⟩

/-- What starts when a path is run from a directory: the file itself and its interpreters are
read. -/
def load (v : Volume) (cwd : Loc) (path : String) : Except Errno Image :=
  v.loadWith cwd (interpreterLimit + 1) path

end Volume

end TexBuild
