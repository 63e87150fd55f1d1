namespace TexBuild.Shell

/-- How a redirection opens what it names. -/
inductive Opening where
  | read
  | write
  | append
  | duplicate
deriving DecidableEq, Repr

/-- The words that give a value to a variable without one, or take it away. -/
inductive Fallback where
  | use
  | assign
  | complain
  | replace
deriving DecidableEq, Repr

mutual

/-- A piece of a word: text as it stands, pieces between quotes, the value of a
parameter, the value of a sum, or the output of commands. -/
inductive Piece where
  | literal (cs : List Char)
  | quoted (pieces : List Piece)
  | parameter (name : List Char) (change : Change)
  | sum (pieces : List Piece)
  | output (body : List Command)

/-- What is done to the value of a parameter before it is used. A fallback with
`orEmpty` takes an empty value for none. -/
inductive Change where
  | keep
  | size
  | cutStart (longest : Bool) (pieces : List Piece)
  | cutEnd (longest : Bool) (pieces : List Piece)
  | fallback (kind : Fallback) (orEmpty : Bool) (pieces : List Piece)

/-- A redirection of one descriptor: to a file or another descriptor, or from
text that stands in the script. -/
inductive Redirect where
  | file (descriptor : Nat) (opening : Opening) (target : List Piece)
  | here (descriptor : Nat) (text : List Piece)

/-- A command of a script. A simple one knows its line, for its complaints. -/
inductive Command where
  | simple (line : Nat) (assignments : List (List Char × List Piece))
      (words : List (List Piece)) (redirects : List Redirect)
  | both (first second : Command)
  | either (first second : Command)
  | negated (body : Command)
  | background (body : Command)
  | chain (first second : Command)
  | group (body : List Command)
  | subshell (body : List Command)
  | choice (branches : List (List Command × List Command)) (otherwise : List Command)
  | loop (negated : Bool) (condition body : List Command)
  | each (variableName : List Char) (words : Option (List (List Piece))) (body : List Command)
  | select (subject : List Piece) (arms : List (List (List Piece) × List Command))
  | define (name : List Char) (body : Command)
  | redirected (line : Nat) (body : Command) (redirects : List Redirect)

end

/-- A word of a script. -/
abbrev Word := List Piece

/-- A script: its commands up to the first that cannot be read, and the line of
that one. -/
structure Script where
  commands : List Command
  fault : Option (Nat × String)

end TexBuild.Shell
