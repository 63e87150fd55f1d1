import TexBuild.Diagnostic.Basic
import TexBuild.Text.Digit
import TexBuild.Text.Search

namespace TexBuild

/-- What one line of an engine's output means: a finding, which may turn out
empty; the number of the source line that the last finding belongs to; or
nothing. -/
inductive LogLine where
  | finding (severity : Severity) (message : List Char)
  | empty
  | place (digits : List Char)
  | other
deriving DecidableEq, Repr

namespace LogLine

/-- The rules for lines of output, in the order in which they are tried. -/
inductive Rule where
  | sentinel
  | errorToken
  | warningToken
  | engineLabel
  | reference
deriving DecidableEq, Repr

/-- All rules; the first that fits a line decides. -/
def Rule.all : List Rule :=
  [.sentinel, .errorToken, .warningToken, .engineLabel, .reference]

/-- Opens every error that the engine itself finds. -/
def sentinel : List Char := ['!', ' ']

/-- Opens the line with the place of an error. -/
def referenceMark : List Char := ['l', '.']

def errorToken : List Char := "error:".toList

def warningToken : List Char := "warning:".toList

def engineLabel : List Char := "LaTeX Warning:".toList

/-- What follows a run of at least one blank. -/
def dropBlanks? (cs : List Char) : Option (List Char) :=
  if cs.takeWhile isBlank = [] then none else some (cs.dropWhile isBlank)

/-- What follows a name, a run of at least one character that is no blank. -/
def dropWord? (cs : List Char) : Option (List Char) :=
  if cs.takeWhile (fun c => !isBlank c) = [] then none
  else some (cs.dropWhile (fun c => !isBlank c))

/-- What follows one of the three names under which errors are announced: the
format itself, or a package or class by its own name. -/
def dropAnnouncer? (cs : List Char) : Option (List Char) :=
  match Text.dropStart? "LaTeX".toList cs with
  | some rest => some rest
  | none =>
    match (Text.dropStart? "Package".toList cs).or (Text.dropStart? "Class".toList cs) with
    | some rest => (dropBlanks? rest).bind dropWord?
    | none => none

/-- A message without the announcement that it may begin with. -/
def dropAnnouncement (message : List Char) : List Char :=
  match (dropAnnouncer? message).bind dropBlanks? |>.bind (Text.dropStart? "Error:".toList) with
  | some rest => Text.trimStart rest
  | none => message

/-- A finding with a message; without one there is nothing to report. -/
def findingOf (severity : Severity) (message : List Char) : LogLine :=
  if message = [] then .empty else .finding severity message

/-- The meaning of a line under one rule, if the rule fits. Only the sentinel
reports an empty message. -/
def Rule.verdict? (line : List Char) : Rule → Option LogLine
  | .sentinel =>
    (Text.dropStart? LogLine.sentinel line).map fun m => .finding .error (dropAnnouncement m)
  | .errorToken =>
    if Text.holds LogLine.errorToken (Text.lowered line) then
      some (findingOf .error (Text.payload LogLine.errorToken line))
    else none
  | .warningToken =>
    if Text.holds LogLine.warningToken (Text.lowered line) then
      some (findingOf .warning (Text.payload LogLine.warningToken line))
    else none
  | .engineLabel =>
    if Text.holds LogLine.engineLabel line then
      some (findingOf .warning (Text.payload LogLine.engineLabel line))
    else none
  | .reference =>
    (Text.dropStart? referenceMark line).map fun rest =>
      match rest.takeWhile Char.isDigit with
      | [] => .other
      | digits => .place digits

/-- The meaning of a line under the first rule of a list that fits. -/
def classifyBy (rules : List Rule) (line : List Char) : LogLine :=
  (rules.findSome? (Rule.verdict? line)).getD .other

/-- The meaning of a line. -/
def classify (line : List Char) : LogLine :=
  classifyBy Rule.all line

end LogLine

end TexBuild
