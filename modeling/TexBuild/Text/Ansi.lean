namespace TexBuild.Ansi

/-- The character that opens a control sequence of a terminal. -/
def escape : Char := Char.ofNat 0x1B

/-- What a terminal may be told about the text that follows. -/
inductive Style where
  | bold
  | red
  | green
  | yellow
  | blue
  | cyan
deriving DecidableEq, Repr

/-- The number that selects a style; zero ends all of them. -/
def Style.code : Style → String
  | .bold => "1"
  | .red => "31"
  | .green => "32"
  | .yellow => "33"
  | .blue => "34"
  | .cyan => "36"

/-- The control sequence that selects the style with the given number. -/
def select (code : String) : String :=
  escape.toString ++ "[" ++ code ++ "m"

/-- Ends all styles. -/
def reset : String :=
  select "0"

/-- A text in the given styles, which end with it. -/
def styled (styles : List Style) (text : String) : String :=
  String.join (styles.map fun s => select s.code) ++ text ++ reset

/-- A character that may stand between the bracket and the final letter of a
control sequence. -/
def isParameter (c : Char) : Bool :=
  c == ';' || c == '?' || c.isDigit

/-- The rest of a text after the control sequence that it begins with, if the
text begins with one: parameters, then a letter. -/
def dropSequence? (cs : List Char) : Option (List Char) :=
  match cs with
  | e :: b :: rest =>
    if e = escape ∧ b = '[' then
      match rest.dropWhile isParameter with
      | c :: after => if c.isAlpha then some after else none
      | [] => none
    else none
  | _ => none

/-- The text that is left after `done`, which is held newest first, once the
control sequences among the characters to come are gone. -/
def plainFrom : Nat → List Char → List Char → List Char
  | 0, _, done => done.reverse
  | _ + 1, [], done => done.reverse
  | n + 1, c :: cs, done =>
    match dropSequence? (c :: cs) with
    | some rest => plainFrom n rest done
    | none => plainFrom n cs (c :: done)

/-- The text without its control sequences. Each step leaves a shorter rest, so
as many steps as there are characters reach the end. -/
def plain (cs : List Char) : List Char :=
  plainFrom (cs.length + 1) cs []

end TexBuild.Ansi
