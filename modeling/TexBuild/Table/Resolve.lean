import TexBuild.Table.Fitness

-- After the resolution of interpolations in OmegaConf's containers, and its own resolvers `oc.*`.

namespace TexBuild.Table

/-- The text that marks a value as still to be given. -/
def missingMark : String := "???"

/-- A value and the keys that lead to it from the top, the last one first. -/
structure Level where
  node : Node
  path : List String

/-- A value with the lists and records around it, from the inside out. -/
abbrev Spot := List Level

namespace Spot

/-- The value itself. -/
def node (s : Spot) : Node :=
  match s with
  | l :: _ => l.node
  | [] => .word .null

/-- The keys that lead to the value. -/
def path (s : Spot) : List String :=
  match s with
  | l :: _ => l.path
  | [] => []

/-- The value is a list or a record. -/
def isHolder (s : Spot) : Bool :=
  match s.node with
  | .word _ => false
  | _ => true

/-- The value is still to be given. -/
def isMissing (s : Spot) : Bool :=
  match s.node with
  | .word (.text t) => t == missingMark
  | _ => false

/-- The member of a value under a key, which is a number in a list, if it is there. -/
def member? (s : Spot) (key : String) : Except TableError (Option Level) :=
  match s.node with
  | .record fields =>
    .ok (((Node.record fields).field? key).map fun x => ⟨x, key :: s.path⟩)
  | .list items =>
    match Numeral.whole 10 key with
    | .error _ => .error .unresolved
    | .ok i =>
      .ok ((if i < 0 then none else items[i.toNat]?).map fun x => ⟨x, toString i :: s.path⟩)
  | .word _ => .error .unresolved

/-- The value from which a name is followed that begins with a number of points: the top
without any, and otherwise the value around as many of those at hand less one. -/
def base (s : Spot) (points : Nat) : Spot :=
  s.drop (if points = 0 then s.length - 1 else points - 1)

end Spot

/-- What a key may be when it comes from a reference: a text or a whole number. -/
def keyText? : Node → Option String
  | .word (.text s) => some s
  | .word (.whole n) => (Word.whole n).inText?
  | _ => none

/-- A value of a kind, made of a word. -/
def coerce? (kind : String) (w : Word) : Option Word :=
  match kind, w with
  | "str", w => w.inText?.map .text
  | "int", .text s => (Numeral.whole 10 s).toOption.map .whole
  | "int", .real x => x.truncate?.map .whole
  | "int", w => w.asWhole?.map .whole
  | "float", .text s => (Numeral.binary64? s).map .real
  | "float", .real x => some (.real x)
  | "float", w => w.asWhole?.map fun n => .real (Binary64.ofInt n)
  | "bool", .text s => match Tag.ofWord s.toList with
    | .truth => (Word.ofTree .truth s).toOption
    | _ => none
  | "bool", w => w.asWhole?.map fun n => .truth (n != 0)
  | _, _ => none

/-- The sources of values that have a name. -/
def sources : List String :=
  ["oc.env", "oc.decode", "oc.create", "oc.select", "oc.deprecated", "oc.dict.keys",
    "oc.dict.values", "oc.coerce"]

mutual

/-- The value of a text inside `home`, to which the keys `path` lead. -/
def textValue (environment : Environment) :
    Nat → Spot → List String → String → Except TableError Spot
  | 0, _, _, _ => .error .unresolved
  | fuel + 1, home, path, t =>
    if !hasReference t.toList then .ok (⟨.word (.text t), path⟩ :: home)
    else
      match piece? t.toList with
      | none => .error .badReference
      | some piece => pieceValue environment fuel home path piece

/-- The value of a piece. One that is no reference is new, and stands where the text stands. -/
def pieceValue (environment : Environment) :
    Nat → Spot → List String → Piece → Except TableError Spot
  | 0, _, _, _ => .error .unresolved
  | fuel + 1, home, path, piece => do
    let new (node : Node) : Spot := ⟨node, path⟩ :: home
    match piece with
    | .plain cs => return new (.word (.text (String.ofList cs)))
    | .word w => return new (.word w)
    | .tooLong => throw .unresolved
    | .joined pieces => do
      let texts ← pieceTexts environment fuel home path pieces
      return new (.word (.text (String.join texts)))
    | .list items => do
      let spots ← pieceValues environment fuel home path items
      return new (.list (spots.map Spot.node))
    | .record fields => do
      let spots ← pieceValues environment fuel home path (fields.map (·.2))
      let pairs := (fields.map (·.1)).zip (spots.map Spot.node)
      return new (.record (pairs.foldl (fun done (k, x) => Node.addField done k x) []))
    | .reference keys => do
      let name ← keysText environment fuel home path keys
      match ← follow environment fuel true home name with
      | none => throw .unknownReference
      | some target =>
        if target.isHolder && home.any (fun l => l.path == target.path) then throw .unresolved
        return target
    | .call name arguments => do
      let name ← keysText environment fuel home path name
      let arguments ← pieceValues environment fuel home path arguments
      let result ← call environment fuel home path name arguments
      if result.isMissing then throw .missingValue
      return result

/-- The values of pieces. -/
def pieceValues (environment : Environment) :
    Nat → Spot → List String → List Piece → Except TableError (List Spot)
  | 0, _, _, _ => .error .unresolved
  | _ + 1, _, _, [] => .ok []
  | fuel + 1, home, path, piece :: rest => do
    let value ← pieceValue environment fuel home path piece
    return value :: (← pieceValues environment fuel home path rest)

/-- The values of pieces in a running text. -/
def pieceTexts (environment : Environment) :
    Nat → Spot → List String → List Piece → Except TableError (List String)
  | 0, _, _, _ => .error .unresolved
  | _ + 1, _, _, [] => .ok []
  | fuel + 1, home, path, piece :: rest => do
    let value ← pieceValue environment fuel home path piece
    match value.node.inText? with
    | some text => return text :: (← pieceTexts environment fuel home path rest)
    | none => throw .unresolved

/-- The parts of keys put together. -/
def keysText (environment : Environment) :
    Nat → Spot → List String → List Piece → Except TableError String
  | 0, _, _, _ => .error .unresolved
  | _ + 1, _, _, [] => .ok ""
  | fuel + 1, home, path, piece :: rest => do
    let value ← pieceValue environment fuel home path piece
    match keyText? value.node with
    | some text => return text ++ (← keysText environment fuel home path rest)
    | none => throw .unresolved

/-- The value that a name leads to from inside `home`, if it is there. One still to be given
is a fault if `mustBeGiven` says so. -/
def follow (environment : Environment) :
    Nat → Bool → Spot → String → Except TableError (Option Spot)
  | 0, _, _, _ => .error .unresolved
  | fuel + 1, mustBeGiven, home, name =>
    let points := (name.toList.takeWhile (· == '.')).length
    let base := home.base points
    if base.isEmpty then .ok none
    else
      match name.toList.drop points with
      | [] => .ok (some base)
      | cs => descend environment fuel mustBeGiven base (splitKeys cs)

/-- The value that keys lead to from a value, if it is there. A text with references is itself
resolved on the way. -/
def descend (environment : Environment) :
    Nat → Bool → Spot → List String → Except TableError (Option Spot)
  | 0, _, _, _ => .error .unresolved
  | _ + 1, _, spot, [] => .ok (some spot)
  | fuel + 1, mustBeGiven, spot, key :: rest => do
    match ← spot.member? key with
    | none => return none
    | some ⟨.word (.text t), path⟩ =>
      if t = missingMark ∧ mustBeGiven then throw .missingValue
      else descend environment fuel mustBeGiven (← textValue environment fuel spot path t) rest
    | some inner => descend environment fuel mustBeGiven (inner :: spot) rest

/-- The value of a call inside `home`, to which the keys `path` lead. -/
def call (environment : Environment) :
    Nat → Spot → List String → String → List Spot → Except TableError Spot
  | 0, _, _, _, _ => .error .unresolved
  | fuel + 1, home, path, name, arguments =>
    let new (node : Node) : Except TableError Spot := .ok (⟨node, path⟩ :: home)
    let newIf (node? : Option Node) : Except TableError Spot :=
      node?.elim (.error .unresolved) new
    let record (name : String) : Except TableError (List (Word × Node)) := do
      match (← follow environment fuel false home name).map Spot.node with
      | some (.record fields) => return fields
      | _ => throw .unresolved
    match name, arguments.map Spot.node with
    | "oc.env", [.word (.text key)] =>
      newIf ((environment.get? key).map fun t => .word (.text t))
    | "oc.env", [.word (.text key), otherwise] =>
      match environment.get? key, otherwise with
      | some t, _ => new (.word (.text t))
      | none, .word .null => new (.word .null)
      | none, otherwise => newIf (otherwise.inText?.map fun t => .word (.text t))
    | "oc.decode", [.word .null] | "oc.create", [.word .null] => new (.word .null)
    | "oc.decode", [.word (.text t)] =>
      match Piece.ofArgument? t.toList with
      | some piece => pieceValue environment fuel home path piece
      | none => .error .unresolved
    | "oc.create", [.word (.text t)] =>
      newIf (do Node.asTable (← Node.limit environment) (.word (.text t))).toOption
    | "oc.create", [.list items] =>
      newIf ((Node.check (.list items)).toOption.map fun _ => .list items)
    | "oc.create", [.record fields] =>
      newIf ((Node.check (.record fields)).toOption.map fun _ => .record fields)
    | "oc.select", .word (.text key) :: others => do
      if 1 < others.length ∨ (home.base (key.toList.takeWhile (· == '.')).length).isEmpty then
        throw .unresolved
      match (← follow environment fuel false home key).filter fun s => !s.isMissing with
      | some target => return target
      | none => arguments[1]?.elim (new (.word .null)) .ok
    | "oc.deprecated", .word (.text key) :: others => do
      let fits := match others with
        | [] | [.word (.text _)] => true
        | _ => false
      match ← follow environment fuel false home key with
      | some target => if fits then return target else throw .unresolved
      | none => throw .unresolved
    | "oc.dict.keys", [.word (.text key)] => do
      new (.list ((← record key).map fun f => .word f.1))
    | "oc.dict.values", [.word (.text key)] => do
      -- the references stand one level further in than the text at hand
      let name := if key.startsWith "." then "." ++ key else key
      let reference (f : Word × Node) : Option Node :=
        f.1.inText?.map fun t => .word (.text ("$\x7b" ++ name ++ "." ++ t ++ "\x7d"))
      newIf (((← record key).mapM reference).map .list)
    | "oc.coerce", [.word (.text kind), .word w] => newIf ((coerce? kind w).map .word)
    | name, _ => .error (if sources.contains name then .unresolved else .unknownResolver)

end

mutual

/-- The value at a spot with all references in it resolved, in the order of the text. -/
def resolve (environment : Environment) : Nat → Spot → Except TableError Node
  | 0, _ => .error .unresolved
  | fuel + 1, spot =>
    match spot.node with
    | .word w => .ok (.word w)
    | .list items => do
      let numbered := (List.range items.length).map toString
      return .list (← resolveAll environment fuel spot (numbered.zip items))
    | .record fields => do
      let named := fields.map fun f => (f.1.inText?.getD "", f.2)
      return .record ((fields.map (·.1)).zip (← resolveAll environment fuel spot named))

/-- The members of a value. -/
def resolveAll (environment : Environment) :
    Nat → Spot → List (String × Node) → Except TableError (List Node)
  | 0, _, _ => .error .unresolved
  | _ + 1, _, [] => .ok []
  | fuel + 1, spot, (key, x) :: rest => do
    let path := key :: spot.path
    let value ← match x with
      | .word (.text t) => do resolve environment fuel (← textValue environment fuel spot path t)
      | x => resolve environment fuel (⟨x, path⟩ :: spot)
    return value :: (← resolveAll environment fuel spot rest)

end

/-- A table with all references in it resolved. A chain of references that takes more steps
than there are characters in its texts and in the variables is circular. -/
def resolved (environment : Environment) (table : Node) : Except TableError Node :=
  let variableLetters := (environment.map fun v => v.1.length + v.2.length).foldl (· + ·) 0
  resolve environment (64 + 16 * (table.size + table.letters + variableLetters)) [⟨table, []⟩]

end TexBuild.Table
