import TexBuild.Number.Numeral
import TexBuild.Table.Mark
import TexBuild.Table.Node

-- After OmegaConf's grammar of interpolations.

namespace TexBuild.Table

/-- A piece of a text with references: characters as they are; a word of its own kind; pieces
put together as text; a list or record of pieces; a reference to another value, the parts of
whose keys are put together; or a call of a named source of values. -/
inductive Piece where
  | plain (cs : List Char)
  | word (w : Word)
  | tooLong
  | joined (pieces : List Piece)
  | list (items : List Piece)
  | record (fields : List (Word × Piece))
  | reference (keys : List Piece)
  | call (name : List Piece) (arguments : List Piece)

namespace Piece

/-- A character that may stand in a key. -/
def isKeyChar (c : Char) : Bool :=
  ! ['\\', '\x7b', '\x7d', '(', ')', '[', ']', ':', '.', ' ', '\t', '\'', '"'].contains c

/-- A name of a source: letters, digits, underscores and dashes, no digit or dash at its
beginning. -/
def isIdentifier (cs : List Char) : Bool :=
  match cs with
  | [] => false
  | c :: rest => (c.isAlpha || c == '_') && rest.all isNameChar

/-- A character that may stand in an argument by itself. -/
def isLoose (c : Char) : Bool :=
  ['/', '-', '\\', '+', '.', '$', '%', '*', '@', '?', '|'].contains c

/-- A character that a backslash makes part of an argument. -/
def isEscapable (c : Char) : Bool :=
  ['\\', '(', ')', '[', ']', '\x7b', '\x7d', ':', '=', ',', ' ', '\t'].contains c

/-- Digits with single low lines between, and what follows them. -/
def digitRun : List Char → List Char × List Char
  | '_' :: c :: rest =>
    if c.isDigit then
      let (ds, after) := digitRun rest
      ('_' :: c :: ds, after)
    else ([], '_' :: c :: rest)
  | c :: rest =>
    if c.isDigit then
      let (ds, after) := digitRun rest
      (c :: ds, after)
    else ([], c :: rest)
  | [] => ([], [])

/-- The whole part of a numeral: a zero, or digits of which the first is none. -/
def wholePart : List Char → List Char × List Char
  | '0' :: rest => (['0'], rest)
  | c :: rest => if c.isDigit then digitRun (c :: rest) else ([], c :: rest)
  | [] => ([], [])

/-- The places behind the point of a numeral, with the point. Without a whole part there has
to be one. -/
def places (hasWhole : Bool) : List Char → List Char × List Char
  | '.' :: c :: rest =>
    if c.isDigit then
      let (ds, after) := digitRun (c :: rest)
      ('.' :: ds, after)
    else if hasWhole then (['.'], c :: rest)
    else ([], '.' :: c :: rest)
  | ['.'] => if hasWhole then (['.'], []) else ([], ['.'])
  | cs => ([], cs)

/-- The power of ten behind a numeral. -/
def powerPart : List Char → List Char × List Char
  | e :: rest =>
    if e = 'e' ∨ e = 'E' then
      let (sign, digits) := match rest with
        | '+' :: ds => (['+'], ds)
        | '-' :: ds => (['-'], ds)
        | ds => ([], ds)
      match digits with
      | c :: _ =>
        if c.isDigit then
          let (ds, after) := digitRun digits
          (e :: sign ++ ds, after)
        else ([], e :: rest)
      | [] => ([], e :: rest)
    else ([], e :: rest)
  | [] => ([], [])

/-- The value of a numeral. -/
def ofNumeral (isReal : Bool) (cs : List Char) : Piece :=
  if isReal then
    match Numeral.binary64? (String.ofList cs) with
    | some x => word (.real x)
    | none => plain cs
  else
    match Numeral.whole 10 (String.ofList cs) with
    | .ok n => word (.whole n)
    | .error _ => tooLong

/-- The longest numeral at the beginning, with a sign or without. -/
def numeral? (cs : List Char) : Option (List Char × Piece × List Char) :=
  let (sign, rest) := match cs with
    | '+' :: rest => (['+'], rest)
    | '-' :: rest => (['-'], rest)
    | rest => ([], rest)
  let (whole, rest) := wholePart rest
  let (point, rest) := places (!whole.isEmpty) rest
  if whole.isEmpty && point.isEmpty then
    let name := rest.take 3
    if ["inf", "nan"].contains (String.ofList (name.map Char.toLower)) then
      some (sign ++ name, ofNumeral true (sign ++ name), rest.drop 3)
    else none
  else
    let (power, rest) := powerPart rest
    let text := sign ++ whole ++ point ++ power
    some (text, ofNumeral (!point.isEmpty || !power.isEmpty) text, rest)

/-- What a name in an argument stands for. -/
def ofName (cs : List Char) : Piece :=
  match String.ofList (cs.map Char.toLower) with
  | "true" => word (.truth true)
  | "false" => word (.truth false)
  | "null" => word .null
  | "inf" | "nan" => ofNumeral true cs
  | _ => plain cs

/-- The part of an argument at its beginning: its text, what it is if it stands alone, and
what follows it. -/
def part? (cs : List Char) : Option (List Char × Piece × List Char) :=
  match cs with
  | [] => none
  | c :: rest =>
    let name := cs.takeWhile isNameChar
    if isIdentifier name then some (name, ofName name, cs.drop name.length)
    else
      match numeral? cs with
      | some found => some found
      | none =>
        match rest with
        | d :: after =>
          if c = '\\' ∧ isEscapable d then some ([d], plain [d], after)
          else if isLoose c then some ([c], plain [c], rest)
          else none
        | [] => if isLoose c then some ([c], plain [c], rest) else none

/-- Adds characters to pieces that are held latest first. -/
def addPlain (cs : List Char) : List Piece → List Piece
  | .plain before :: rest => .plain (before ++ cs) :: rest
  | pieces => if cs = [] then pieces else .plain cs :: pieces

/-- A part of an argument: a reference, blanks, or what is read alone as a piece and otherwise
as its text. -/
inductive Part where
  | reference (piece : Piece)
  | gap (cs : List Char)
  | token (cs : List Char) (alone : Piece)

/-- The one piece that stands alone, or all put together as text. Blanks alone are none. -/
def ofParts? : List Part → Option Piece
  | [] | [.gap _] => none
  | [.reference piece] | [.token _ piece] => some piece
  | parts => some (joined (parts.map fun
      | .reference piece => piece
      | .gap cs | .token cs _ => plain cs))

/-- The text of a word that is a key. -/
def keyWord? : Piece → Option Word
  | plain cs => some (.text (String.ofList cs))
  | word w => some w
  | joined pieces => some (.text (String.ofList (pieces.flatMap fun
    | plain cs => cs
    | _ => [])))
  | _ => none

mutual

/-- Reads running text up to its end: the end of all, or the quote that is given. Backslashes
have a meaning only in front of a reference or of that quote: two stand for one, and a single
one that is left takes the meaning from what follows. The pieces so far are held latest
first. -/
def readText : Nat → Option Char → List Char → List Piece → Option (List Piece × List Char)
  | 0, _, _, _ => none
  | fuel + 1, quote, cs, done =>
    let run := cs.takeWhile fun c => c != '\\' && c != '$' && some c != quote
    let done := addPlain run done
    let cs := cs.drop run.length
    let slashes := (cs.takeWhile (· == '\\')).length
    let half := List.replicate (slashes / 2) '\\'
    match cs.drop slashes with
    | [] =>
      if quote = none then some ((addPlain (List.replicate slashes '\\') done).reverse, []) else none
    | '$' :: '\x7b' :: rest =>
      if slashes % 2 = 1 then readText fuel quote rest (addPlain (half ++ ['$', '\x7b']) done)
      else do
        let (piece, after) ← readReference fuel rest
        readText fuel quote after (piece :: addPlain half done)
    | c :: rest =>
      if some c = quote then
        if slashes % 2 = 1 then readText fuel quote rest (addPlain (half ++ [c]) done)
        else some ((addPlain half done).reverse, rest)
      else readText fuel quote rest (addPlain (List.replicate slashes '\\' ++ [c]) done)

/-- Reads what follows the opening of a reference, up to its end. -/
def readReference : Nat → List Char → Option (Piece × List Char)
  | 0, _ => none
  | fuel + 1, cs =>
    let cs := cs.dropWhile isGap
    let dots := cs.takeWhile (· == '.')
    readKey fuel (cs.drop dots.length) dots.isEmpty (addPlain dots [])

/-- Reads one key, in brackets or not, and what may follow it. The parts of keys so far are
held latest first; `mayCall` tells whether they may name a source. -/
def readKey : Nat → List Char → Bool → List Piece → Option (Piece × List Char)
  | 0, _, _, _ => none
  | fuel + 1, cs, mayCall, done =>
    match cs with
    | '[' :: rest => do
      let (key, rest) ← readName fuel rest
      match rest with
      | ']' :: after => readMore fuel after false (addPlain [']'] (key :: addPlain ['['] done))
      | _ => none
    | cs => do
      let (key, rest) ← readName fuel cs
      let isName := match key with
        | .plain name => isIdentifier name
        | _ => true
      readMore fuel rest (mayCall && isName) (key :: done)

/-- Reads a key without brackets: a name, or a reference whose value is the name. -/
def readName : Nat → List Char → Option (Piece × List Char)
  | 0, _ => none
  | fuel + 1, '$' :: '\x7b' :: rest => readReference fuel rest
  | _ + 1, cs =>
    match cs.takeWhile isKeyChar with
    | [] => none
    | name => some (.plain name, cs.dropWhile isKeyChar)

/-- Reads what follows a key. -/
def readMore : Nat → List Char → Bool → List Piece → Option (Piece × List Char)
  | 0, _, _, _ => none
  | fuel + 1, cs, mayCall, done =>
    match cs with
    | '.' :: '[' :: _ => none
    | '.' :: rest => readKey fuel rest mayCall (.plain ['.'] :: done)
    | '[' :: rest => readKey fuel ('[' :: rest) false done
    | cs =>
      match cs.dropWhile isGap with
      | '\x7d' :: rest => some (.reference done.reverse, rest)
      | ':' :: rest => do
        if !mayCall then none
        let (arguments, after) ← readArguments fuel '\x7d' rest
        return (.call done.reverse arguments, after)
      | _ => none

/-- Reads arguments up to a closing bracket. -/
def readArguments : Nat → Char → List Char → Option (List Piece × List Char)
  | 0, _, _ => none
  | fuel + 1, close, cs =>
    match cs.dropWhile isGap with
    | c :: rest => if c = close then some ([], rest) else readMembers fuel close (c :: rest)
    | [] => none

/-- Reads one argument or more up to a closing bracket. What is not written between two commas
is an empty text. -/
def readMembers : Nat → Char → List Char → Option (List Piece × List Char)
  | 0, _, _ => none
  | fuel + 1, close, cs => do
    let missing : Piece := .word (.text "")
    let (argument, rest) ← match cs.dropWhile isGap with
      | ',' :: rest => some (missing, ',' :: rest)
      | c :: rest => if c = close then some (missing, c :: rest) else readArgument fuel (c :: rest)
      | [] => none
    match rest.dropWhile isGap with
    | ',' :: after => do
      let (more, after) ← readMembers fuel close after
      return (argument :: more, after)
    | c :: after => if c = close then some ([argument], after) else none
    | [] => none

/-- Reads one argument: a text between quotes, a list, a record, or parts without quotes. -/
def readArgument : Nat → List Char → Option (Piece × List Char)
  | 0, _ => none
  | fuel + 1, cs =>
    match cs with
    | '[' :: rest => do
      let (items, after) ← readArguments fuel ']' rest
      return (.list items, after)
    | '\x7b' :: rest => do
      let (fields, after) ← readFields fuel true (rest.dropWhile isGap)
      return (.record fields, after)
    | '\'' :: rest => do
      let (pieces, after) ← readText fuel (some '\'') rest []
      return (.joined pieces, after)
    | '"' :: rest => do
      let (pieces, after) ← readText fuel (some '"') rest []
      return (.joined pieces, after)
    | cs => do
      let (parts, after) ← readParts fuel false cs
      return (← ofParts? parts, after)

/-- Reads the parts of an argument without quotes or of a key, which holds no colon and no
reference. Blanks belong to it only between its parts. -/
def readParts : Nat → Bool → List Char → Option (List Part × List Char)
  | 0, _, _ => none
  | fuel + 1, inKey, cs =>
    let gap := cs.takeWhile isGap
    match cs.drop gap.length with
    | ':' :: rest =>
      if inKey then some ([], cs)
      else do
        let text := gap ++ ':' :: rest.takeWhile isGap
        let (more, after) ← readParts fuel inKey (rest.dropWhile isGap)
        return (.token text (.plain text) :: more, after)
    | ',' :: _ | ']' :: _ | '\x7d' :: _ => some ([], cs)
    | rest =>
      if gap ≠ [] then do
        let (more, after) ← readParts fuel inKey rest
        return (.gap gap :: more, after)
      else
        match rest with
        | '$' :: '\x7b' :: inner => do
          if inKey then none
          let (piece, rest) ← readReference fuel inner
          let (more, after) ← readParts fuel inKey rest
          return (.reference piece :: more, after)
        | rest =>
          match part? rest with
          | none => some ([], rest)
          | some (text, piece, rest) => do
            let (more, after) ← readParts fuel inKey rest
            return (.token text piece :: more, after)

/-- Reads the fields of a record up to its closing bracket. -/
def readFields : Nat → Bool → List Char → Option (List (Word × Piece) × List Char)
  | 0, _, _ => none
  | fuel + 1, mayBeEmpty, cs =>
    match cs with
    | '\x7d' :: rest => if mayBeEmpty then some ([], rest) else none
    | cs => do
      let (parts, rest) ← readParts fuel true cs
      let key ← (← ofParts? parts).keyWord?
      match rest.dropWhile isGap with
      | ':' :: rest => do
        let (inner, rest) ← readArgument fuel (rest.dropWhile isGap)
        match rest.dropWhile isGap with
        | ',' :: after => do
          let (more, after) ← readFields fuel false (after.dropWhile isGap)
          return ((key, inner) :: more, after)
        | '\x7d' :: after => some ([(key, inner)], after)
        | _ => none
      | _ => none

end

/-- Enough steps to read a text: each step but one in a few takes a character. -/
def fuelFor (cs : List Char) : Nat :=
  4 * cs.length + 8

/-- The argument that is a whole text. -/
def ofArgument? (cs : List Char) : Option Piece :=
  match readArgument (fuelFor cs) cs with
  | some (piece, []) => some piece
  | _ => none

end Piece

/-- The opening of a reference stands somewhere in the text. -/
def hasReference : List Char → Bool
  | '$' :: '\x7b' :: _ => true
  | _ :: rest => hasReference rest
  | [] => false

/-- A text with its references read, if every one of them is well formed. One reference alone
is that reference, and not a text. -/
def piece? (cs : List Char) : Option Piece :=
  if hasReference cs then
    match Piece.readText (Piece.fuelFor cs) none cs [] with
    | some ([.reference keys], []) => some (.reference keys)
    | some ([.call name arguments], []) => some (.call name arguments)
    | some (pieces, []) => some (.joined pieces)
    | _ => none
  else some (.plain cs)

/-- The keys that a text names, one inside the other: those between points and in brackets. -/
def splitKeys (cs : List Char) : List String :=
  let dots := cs.takeWhile (· == '.')
  let body := (cs.drop dots.length).takeWhile fun c => c != '.' && c != '['
  let first := Text.pieces '.' (dots ++ body)
  let rest := cs.drop (dots.length + body.length)
  let first := if rest.head? = some '[' ∧ first.getLast? = some [] then first.dropLast else first
  (first ++ others rest.length rest).map String.ofList
where
  /-- The keys behind the first. -/
  others : Nat → List Char → List (List Char)
    | 0, _ => []
    | _ + 1, [] => []
    | fuel + 1, c :: rest =>
      if c = '.' then
        let name := rest.takeWhile fun c => c != '.' && c != '['
        name :: others fuel (rest.drop name.length)
      else
        let name := rest.takeWhile fun c => c != ']' && c != '\n'
        if c = '[' ∧ (rest.drop name.length).head? = some ']' then
          name :: others fuel (rest.drop (name.length + 1))
        else others fuel rest

end TexBuild.Table
