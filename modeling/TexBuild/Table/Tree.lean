import TexBuild.Table.Tag
import TexBuild.Table.Token.Queue

-- After PyYAML's parser and composer.

namespace TexBuild.Table

/-- A document as it is bound together: words, lists and records with what they say they
are. A reference to a name stands for what bears it; inside that itself it is a loop. -/
inductive Tree where
  | word (tag : Tag) (text : String)
  | list (tag : Tag) (items : List Tree)
  | record (tag : Tag) (fields : List (Tree × Tree))
  | loop

namespace Tree

/-- What stands where nothing is written. -/
def nothing : Tree := .word .null ""

/-- What a tag alone stands for. -/
def ofTagAlone : Option String → Tree
  | none => nothing
  | some "!" => .word .text ""
  | some tag => .word (Tag.ofText tag) ""

/-- A word with its tag. Without one, quotes make it a text; the tag that says nothing has it
read as if it had neither. -/
def ofWord (isPlain : Bool) (text : String) : Option String → Tree
  | none => .word (if isPlain then Tag.ofWord text.toList else .text) text
  | some "!" => .word (Tag.ofWord text.toList) text
  | some tag => .word (Tag.ofText tag) text

/-- The tag of a list or record, which is what it is unless it says something else. -/
def tagOr (usual : Tag) : Option String → Tag
  | none | some "!" => usual
  | some tag => Tag.ofText tag

end Tree

/-- The reading of tokens as a tree: those left, the fault behind them, the handles of tags
with what they stand for, and the names with what bears them, once that is complete. -/
structure Reading where
  tokens : List Token
  fault : TableError
  handles : List (String × String)
  names : List (String × Option Tree)

/-- A step of a reading. -/
abbrev Read := StateT Reading (Except TableError)

namespace Read

/-- The next token. -/
def peek : Read Token := do
  match (← get).tokens with
  | t :: _ => return t
  | [] => throw (← get).fault

/-- Goes on behind the next token. -/
def skip : Read Unit :=
  modify fun r => { r with tokens := r.tokens.drop 1 }

/-- The next token is one of some. -/
def sees (ts : List Token) : Read Bool := do
  return ts.contains (← peek)

/-- The handles that every document has. -/
def usualHandles : List (String × String) :=
  [("!", "!"), ("!!", Tag.start)]

/-- The whole tag that a handle and what follows it stand for. -/
def wholeTag (handle suffix : String) : Read String := do
  if handle = "" then return suffix
  match (← get).handles.lookup handle with
  | some start => return start ++ suffix
  | none => throw .malformed

/-- The name and the tag in front of a value, in either order. -/
def properties : Read (Option String × Option (String × String)) := do
  match ← peek with
  | .anchor name =>
    skip
    match ← peek with
    | .tag handle suffix => skip; return (some name, some (handle, suffix))
    | _ => return (some name, none)
  | .tag handle suffix =>
    skip
    match ← peek with
    | .anchor name => skip; return (some name, some (handle, suffix))
    | _ => return (none, some (handle, suffix))
  | _ => return (none, none)

/-- A value begins that bears a name, which no other value may bear. -/
def begin (name : Option String) : Read Unit := do
  match name with
  | none => return
  | some name =>
    if ((← get).names.lookup name).isSome then throw .disconnected
    modify fun r => { r with names := (name, none) :: r.names }

/-- A value is complete. -/
def finish (name : Option String) (tree : Tree) : Read Tree := do
  match name with
  | none => return tree
  | some name =>
    modify fun r => { r with names := (name, some tree) :: r.names }
    return tree

/-- What bears a name. -/
def bearer (name : String) : Read Tree := do
  match (← get).names.lookup name with
  | some (some tree) => return tree
  | some none => return .loop
  | none => throw .disconnected

mutual

/-- Reads a value. In a block it may be a block itself, and where `maySink` allows it the
items of a list may stand as far out as what holds it. -/
def value : Nat → Bool → Bool → Read Tree
  | 0, _, _ => throw .malformed
  | fuel + 1, inBlock, maySink => do
    if let .reference name ← peek then
      skip
      return ← bearer name
    let (name, parts) ← properties
    let t ← peek
    let tag ← match parts with
      | some (handle, suffix) => some <$> wholeTag handle suffix
      | none => pure none
    let list (items : Read (List Tree)) : Read Tree := do
      begin name
      finish name (.list (Tree.tagOr .list tag) (← items))
    let record (fields : Read (List (Tree × Tree))) : Read Tree := do
      begin name
      finish name (.record (Tree.tagOr .record tag) (← fields))
    match t with
    | .word isPlain text => do
      skip
      begin name
      finish name (Tree.ofWord isPlain text tag)
    | .openList => skip; list (bracketItems fuel true)
    | .openRecord => skip; record (bracketFields fuel true)
    | t =>
      if maySink ∧ t = .item then list (sunkItems fuel)
      else if inBlock ∧ t = .listBlock then do skip; list (blockItems fuel)
      else if inBlock ∧ t = .recordBlock then do skip; record (blockFields fuel)
      else if name.isSome ∨ tag.isSome then do
        begin name
        finish name (Tree.ofTagAlone tag)
      else throw .malformed

/-- Reads a value, unless one of some tokens shows that none is written. -/
def valueUnless : Nat → List Token → Bool → Bool → Read Tree
  | 0, _, _, _ => throw .malformed
  | fuel + 1, ends, inBlock, maySink => do
    if ← sees ends then return .nothing
    value fuel inBlock maySink

/-- Reads the items of a block. -/
def blockItems : Nat → Read (List Tree)
  | 0 => throw .malformed
  | fuel + 1 => do
    match ← peek with
    | .item => do
      skip
      let item ← valueUnless fuel [.item, .blockEnd] true false
      return item :: (← blockItems fuel)
    | .blockEnd => skip; return []
    | _ => throw .malformed

/-- Reads the items of a list that stand as far out as what holds it. -/
def sunkItems : Nat → Read (List Tree)
  | 0 => throw .malformed
  | fuel + 1 => do
    if !(← sees [.item]) then return []
    skip
    let item ← valueUnless fuel [.item, .key, .value, .blockEnd] true false
    return item :: (← sunkItems fuel)

/-- Reads the fields of a block. -/
def blockFields : Nat → Read (List (Tree × Tree))
  | 0 => throw .malformed
  | fuel + 1 => do
    match ← peek with
    | .key => do
      skip
      let key ← valueUnless fuel [.key, .value, .blockEnd] true true
      let inner ← blockValue fuel
      return (key, inner) :: (← blockFields fuel)
    | .blockEnd => skip; return []
    | _ => throw .malformed

/-- Reads what belongs to a key of a block. -/
def blockValue : Nat → Read Tree
  | 0 => throw .malformed
  | fuel + 1 => do
    if !(← sees [.value]) then return .nothing
    skip
    valueUnless fuel [.key, .value, .blockEnd] true true

/-- Reads the items between brackets. One with a colon is a record of one field. -/
def bracketItems : Nat → Bool → Read (List Tree)
  | 0, _ => throw .malformed
  | fuel + 1, isFirst => do
    if ← sees [.closeList] then skip; return []
    if !isFirst then
      if !(← sees [.comma]) then throw .malformed
      skip
    if ← sees [.closeList] then skip; return []
    if ← sees [.key] then
      skip
      -- a key that is not written takes the token in its place with it
      let key ← if ← sees [.value, .comma, .closeList] then do skip; pure .nothing
        else value fuel false false
      let inner ← if ← sees [.value] then do skip; valueUnless fuel [.comma, .closeList] false false
        else pure .nothing
      return .record .record [(key, inner)] :: (← bracketItems fuel false)
    let item ← value fuel false false
    return item :: (← bracketItems fuel false)

/-- Reads the fields between brackets. One without a colon has no value. -/
def bracketFields : Nat → Bool → Read (List (Tree × Tree))
  | 0, _ => throw .malformed
  | fuel + 1, isFirst => do
    if ← sees [.closeRecord] then skip; return []
    if !isFirst then
      if !(← sees [.comma]) then throw .malformed
      skip
    if ← sees [.closeRecord] then skip; return []
    if ← sees [.key] then
      skip
      let key ← valueUnless fuel [.value, .comma, .closeRecord] false false
      let inner ← if ← sees [.value] then do skip; valueUnless fuel [.comma, .closeRecord] false false
        else pure .nothing
      return (key, inner) :: (← bracketFields fuel false)
    let key ← value fuel false false
    return (key, .nothing) :: (← bracketFields fuel false)

end

/-- Reads the lines in front of a document: at most one version, which has to be one of the
two that are read, and handles, each once. -/
def directives : Nat → Bool → Read Unit
  | 0, _ => throw .malformed
  | fuel + 1, hasVersion => do
    match ← peek with
    | .version major minor => do
      if hasVersion ∨ major ≠ 1 ∨ (minor ≠ 1 ∧ minor ≠ 2) then throw .malformed
      skip
      directives fuel true
    | .handle name start => do
      if ((← get).handles.lookup name).isSome then throw .malformed
      modify fun r => { r with handles := r.handles ++ [(name, start)] }
      skip
      directives fuel hasVersion
    | _ => modify fun r => { r with handles := r.handles ++ usualHandles }

/-- Reads the beginning of a document that is marked. -/
def opening (fuel : Nat) : Read Unit := do
  directives fuel false
  if !(← sees [.documentStart]) then throw .malformed
  skip

/-- Leaves out marked ends of documents. -/
def skipEnds : Nat → Read Unit
  | 0 => return
  | fuel + 1 => do
    if ← sees [.documentEnd] then
      skip
      skipEnds fuel

/-- The next token stands outside the values of a document. -/
def isOutside : Token → Bool
  | .version .. | .handle .. | .documentStart | .documentEnd | .streamEnd => true
  | _ => false

/-- Reads the only document, if there is one. -/
def document (fuel : Nat) : Read (Option Tree) := do
  let t ← peek
  if t = .streamEnd then return none
  let tree ←
    if isOutside t ∧ t ≠ .documentEnd then do
      opening fuel
      if isOutside (← peek) then pure .nothing else value fuel true false
    else do
      modify fun r => { r with handles := usualHandles }
      value fuel true false
  skipEnds fuel
  if !(← sees [.streamEnd]) then
    modify fun r => { r with handles := [] }
    opening fuel
    throw .disconnected
  return some tree

end Read

/-- The tree of a document, if there is one in it. -/
def Tree.ofTokens (ts : Tokens) : Except TableError (Option Tree) :=
  let fuel := 4 * ts.all.length + 8
  (Read.document fuel).run' ⟨ts.all, ts.fault.getD .malformed, [], []⟩

/-- The tree of a document, if there is one in it. -/
def Tree.ofChars (cs : List Char) : Except TableError (Option Tree) := do
  unless cs.all isPrintable do throw .unprintable
  Tree.ofTokens (Tokens.ofSource (Source.ofChars cs))

end TexBuild.Table
