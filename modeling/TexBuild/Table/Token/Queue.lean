import TexBuild.Table.Token.Block
import TexBuild.Table.Token.Name
import TexBuild.Table.Token.Plain
import TexBuild.Table.Token.Quoted

-- After the part of PyYAML's scanner that fetches tokens and tells which of them begin simple keys.

namespace TexBuild.Table

/-- A place that turns out to begin a key if a colon follows: the number of the token there,
and whether nothing else may stand there. -/
structure KeyPlace where
  mustBeKey : Bool
  number : Nat
  mark : Mark
deriving DecidableEq

/-- The reading of a document as tokens, as far as it has come: what is left of it, the
columns of the blocks that are open, whether a key may begin here, one place of a key for
every bracket that is open and one for the blocks, innermost first, the tokens that may
still get a key in front of them, and the number of those handed on. -/
structure Queue where
  rest : Source
  indent : Option Nat
  outer : List (Option Nat)
  mayBeKey : Bool
  places : List (Option KeyPlace)
  waiting : List Token
  handed : Nat
deriving DecidableEq

namespace Queue

/-- The beginning of a document. -/
def ofSource (s : Source) : Queue :=
  ⟨s, none, [], true, [none], [], 0⟩

/-- A bracket is open. -/
def inBrackets (q : Queue) : Bool :=
  1 < q.places.length

/-- The column at which the open block could go on begins behind this one. -/
def least (q : Queue) : Nat :=
  match q.indent with
  | some i => i + 1
  | none => 0

/-- Adds a token at the end. -/
def add (q : Queue) (t : Token) : Queue :=
  { q with waiting := q.waiting ++ [t] }

/-- Adds a token in front of the one with the number `n`. -/
def insertAt (q : Queue) (n : Nat) (t : Token) : Queue :=
  let before := n - q.handed
  { q with waiting := q.waiting.take before ++ t :: q.waiting.drop before }

/-- The longest key on one line. -/
def longestKey : Nat := 1024

/-- A place whose line has ended or which lies too far back begins no key any more. -/
def isPast (q : Queue) (k : KeyPlace) : Bool :=
  k.mark.line < q.rest.head.line || k.mark.index + longestKey < q.rest.head.index

/-- Gives up the places that begin no key any more; one that had to is a fault. -/
def dropPast (q : Queue) : Except TableError Queue :=
  if q.places.any fun p => p.any fun k => k.mustBeKey && q.isPast k then .error .unscannable
  else .ok { q with places := q.places.map fun p => p.filter fun k => !q.isPast k }

/-- Gives up the innermost place of a key; one that had to be a key is a fault. -/
def dropPlace (q : Queue) : Except TableError Queue :=
  match q.places with
  | some k :: outer =>
    if k.mustBeKey then .error .unscannable else .ok { q with places := none :: outer }
  | _ => .ok q

/-- A key may begin with the next token. In a block it has to if it stands where the block
began. -/
def savePlace (q : Queue) : Except TableError Queue :=
  if q.mayBeKey then do
    let q ← q.dropPlace
    let mark := q.rest.head
    let mustBeKey := !q.inBrackets && q.indent == some mark.column
    let place : KeyPlace := ⟨mustBeKey, q.handed + q.waiting.length, mark⟩
    return { q with places := some place :: q.places.drop 1 }
  else .ok q

/-- Opens a block at a column, unless brackets are open or the block at hand begins there or
further in. Its token goes in front of the one with the number `n`, if one is given. -/
def openBlock (q : Queue) (column : Nat) (n : Option Nat) (t : Token) : Queue :=
  if q.inBrackets || column < q.least then q
  else
    let q := { q with indent := some column, outer := q.indent :: q.outer }
    match n with
    | some n => q.insertAt n t
    | none => q.add t

/-- The columns of the blocks that stay open at the column `limit`, or of none, and how many
are closed. -/
def closing (limit : Option Nat) : Option Nat → List (Option Nat) →
    Option Nat × List (Option Nat) × Nat
  | none, outer => (none, outer, 0)
  | some i, outer =>
    if limit.any (i ≤ ·) then (some i, outer, 0)
    else
      match outer with
      | [] => (none, [], 1)
      | next :: outer =>
        let (indent, outer, n) := closing limit next outer
        (indent, outer, n + 1)

/-- Closes the blocks that began behind a column, or all. -/
def closeBlocks (q : Queue) (limit : Option Nat) : Queue :=
  if q.inBrackets then q
  else
    let (indent, outer, n) := closing limit q.indent q.outer
    { q with indent, outer, waiting := q.waiting ++ List.replicate n .blockEnd }

/-- Goes on behind `n` characters. -/
def skip (q : Queue) (n : Nat) : Queue :=
  { q with rest := q.rest.drop n }

/-- Goes on behind what has been read. -/
def goOn (q : Queue) (rest : Source) (t : Token) : Queue :=
  { q with rest }.add t

/-- The blanks, comments and line ends in front of a token left out. A tab is a blank between
brackets and where no key may begin; outside brackets a new line may begin with a key. -/
def skipBlanks (inBrackets : Bool) : Bool → Bool → Source → Source × Bool
  | _, mayBeKey, [] => ([], mayBeKey)
  | inComment, mayBeKey, m :: rest =>
    if isBreak m.char then skipBlanks inBrackets false (mayBeKey || !inBrackets) rest
    else if inComment && m.char != endChar then skipBlanks inBrackets true mayBeKey rest
    else if m.char == orderMark && m.column == 0 then skipBlanks inBrackets false mayBeKey rest
    else if m.char == ' ' || (m.char == '\t' && (inBrackets || !mayBeKey)) then
      skipBlanks inBrackets false mayBeKey rest
    else if m.char == '#' then skipBlanks inBrackets true mayBeKey rest
    else (m :: rest, mayBeKey)

/-- The end of the document closes all blocks. -/
def readEnd (q : Queue) : Except TableError Queue := do
  let q ← (q.closeBlocks none).dropPlace
  return { q with mayBeKey := false }.add .streamEnd

/-- A line for the reader or a marker stands outside all blocks. -/
def leaveBlocks (q : Queue) : Except TableError Queue := do
  let q ← (q.closeBlocks none).dropPlace
  return { q with mayBeKey := false }

/-- An opening bracket may begin a key itself, and so may what follows it. -/
def openBracket (q : Queue) (t : Token) : Except TableError Queue := do
  let q ← q.savePlace
  return ({ q with places := none :: q.places, mayBeKey := true }.skip 1).add t

/-- A closing bracket. -/
def closeBracket (q : Queue) (t : Token) : Except TableError Queue := do
  let q ← q.dropPlace
  let places := if q.inBrackets then q.places.drop 1 else q.places
  return ({ q with places, mayBeKey := false }.skip 1).add t

/-- A mark that begins an item or a key of a block, which has to stand where a key may. -/
def readMark (q : Queue) (block t : Token) (allowsKey : Bool) : Except TableError Queue := do
  if !q.inBrackets && !q.mayBeKey then throw .unscannable
  let q ← (q.openBlock q.rest.head.column none block).dropPlace
  return ({ q with mayBeKey := allowsKey }.skip 1).add t

/-- A colon makes a key of what stands at the innermost place of one. Without such a place
it has to stand where a key may, if it stands in a block. -/
def readColon (q : Queue) : Except TableError Queue :=
  match q.places with
  | some k :: outer =>
    let q := (q.insertAt k.number .key).openBlock k.mark.column (some k.number) .recordBlock
    .ok (({ q with places := none :: outer, mayBeKey := false }.skip 1).add .value)
  | _ =>
    if q.inBrackets then .ok (({ q with mayBeKey := false }.skip 1).add .value)
    else if !q.mayBeKey then .error .unscannable
    else
      let q := q.openBlock q.rest.head.column none .recordBlock
      .ok (({ q with mayBeKey := true }.skip 1).add .value)

/-- What may begin a key and is no key mark itself. -/
def readPart (q : Queue) (read : Source → Except TableError (Token × Source)) :
    Except TableError Queue := do
  let q ← q.savePlace
  let (t, rest) ← read q.rest
  return { q with mayBeKey := false }.goOn rest t

/-- A text without quotes. If a line was broken last, a key may follow. -/
def readPlain (q : Queue) : Except TableError Queue := do
  let q ← q.savePlace
  let (cs, isBroken, rest) ← Plain.read q.inBrackets q.least q.rest
  return { q with mayBeKey := isBroken }.goOn rest (.word true (String.ofList cs))

/-- A block of text, after which a key may follow. -/
def readBlock (q : Queue) : Except TableError Queue := do
  let q ← q.dropPlace
  let (cs, rest) ← Block.read q.least q.rest
  return { q with mayBeKey := true }.goOn rest (.word false (String.ofList cs))

/-- Reads the token at the beginning of what is left. -/
def readToken (q : Queue) : Except TableError Queue :=
  let s := q.rest
  let c := s.peek
  let ends := isWordEnd (s.peekAt 1)
  if c = endChar then q.readEnd
  else if c = '%' ∧ s.head.column = 0 then do
    let q ← q.leaveBlocks
    let (t, rest) ← Token.readDirective q.rest
    return q.goOn rest t
  else if s.startsMarker '-' then return ((← q.leaveBlocks).skip 3).add .documentStart
  else if s.startsMarker '.' then return ((← q.leaveBlocks).skip 3).add .documentEnd
  else if c = '[' then q.openBracket .openList
  else if c = '\x7b' then q.openBracket .openRecord
  else if c = ']' then q.closeBracket .closeList
  else if c = '\x7d' then q.closeBracket .closeRecord
  else if c = ',' then return ({ (← q.dropPlace) with mayBeKey := true }.skip 1).add .comma
  else if c = '-' ∧ ends then q.readMark .listBlock .item true
  else if c = '?' ∧ (q.inBrackets ∨ ends) then q.readMark .recordBlock .key (!q.inBrackets)
  else if c = ':' ∧ (q.inBrackets ∨ ends) then q.readColon
  else if c = '*' then q.readPart fun s => (Token.readName s).map fun (n, r) => (.reference n, r)
  else if c = '&' then q.readPart fun s => (Token.readName s).map fun (n, r) => (.anchor n, r)
  else if c = '!' then q.readPart (Token.readTag q.inBrackets)
  else if (c = '|' ∨ c = '>') ∧ !q.inBrackets then q.readBlock
  else if c = '\'' ∨ c = '"' then
    q.readPart fun s => (Quoted.read s).map fun (cs, r) => (.word false (String.ofList cs), r)
  else if Plain.starts q.inBrackets s then q.readPlain
  else .error .unscannable

/-- Reads the next token. A line further out than a block closes it first. -/
def next (q : Queue) : Except TableError Queue := do
  let (rest, mayBeKey) := skipBlanks q.inBrackets false q.mayBeKey q.rest
  let q ← { q with rest, mayBeKey }.dropPast
  (q.closeBlocks (some q.rest.head.column)).readToken

/-- How many of the waiting tokens no key can come in front of any more. -/
def settled (q : Queue) : Nat :=
  q.places.foldl (fun n p => match p with
    | some k => min n (k.number - q.handed)
    | none => n) q.waiting.length

end Queue

/-- The tokens of a document, as far as it can be read, and the fault at which that ends. A
token counts once it is certain that it begins no key; what is wrong further on does not
matter to those before. -/
structure Tokens where
  all : List Token
  fault : Option TableError

namespace Tokens

/-- Reads on, with the tokens so far held latest first. -/
def read : Nat → Queue → List Token → Tokens
  | 0, _, done => ⟨done.reverse, none⟩
  | fuel + 1, q, done =>
    match q.dropPast with
    | .error e => ⟨done.reverse, some e⟩
    | .ok q =>
      let n := q.settled
      let ready := q.waiting.take n
      let done := ready.reverse ++ done
      if ready.getLast? = some .streamEnd then ⟨done.reverse, none⟩
      else
        match { q with waiting := q.waiting.drop n, handed := q.handed + n }.next with
        | .error e => ⟨done.reverse, some e⟩
        | .ok q => read fuel q done

/-- The tokens of a document. Each step reads a character or the end. -/
def ofSource (s : Source) : Tokens :=
  read (s.length + 2) (Queue.ofSource s) []

end Tokens

end TexBuild.Table
