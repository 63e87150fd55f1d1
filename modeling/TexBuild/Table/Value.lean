import TexBuild.Table.Instant
import TexBuild.Table.Node
import TexBuild.Table.Number
import TexBuild.Table.Tree
import TexBuild.Text.Base64

-- After PyYAML's safe constructor, and OmegaConf's loader over it.

namespace TexBuild.Table

namespace Tree

mutual

/-- What is left of a number of values after those of a tree, if it suffices for them. A loop
has no end of values. -/
def spend : Nat → Tree → Option Nat
  | 0, _ => none
  | budget + 1, .word .. => some budget
  | budget + 1, .list _ items => spendItems budget items
  | budget + 1, .record _ fields => spendFields budget fields
  | _ + 1, .loop => none

def spendItems : Nat → List Tree → Option Nat
  | budget, [] => some budget
  | budget, x :: xs => do spendItems (← spend budget x) xs

def spendFields : Nat → List (Tree × Tree) → Option Nat
  | budget, [] => some budget
  | budget, (k, x) :: fields => do spendFields (← spend (← spend budget k) x) fields

end

/-- What a value says it is. -/
def tag : Tree → Tag
  | .word tag _ | .list tag _ | .record tag _ => tag
  | .loop => .unknown

mutual

/-- The text of a word; a record has that of its field for the value itself. -/
def scalarText : Tree → Option String
  | .word _ text => some text
  | .record _ fields => scalarOfFields fields
  | _ => none

def scalarOfFields : List (Tree × Tree) → Option String
  | [] => none
  | (k, x) :: fields => if k.tag = .value then scalarText x else scalarOfFields fields

end

/-- A key of a field, the mark for the value itself being read as a text. -/
def asKey : Tree → Tree
  | .word .value text => .word .text text
  | k => k

/-- The fields of a record with those merged into it from other records in front: of several
records the first one comes last. -/
def merged : Nat → List (Tree × Tree) → Option (List (Tree × Tree))
  | 0, _ => none
  | fuel + 1, fields => do
    let ofRecord : Tree → Option (List (Tree × Tree))
      | .record _ inner => merged fuel inner
      | _ => none
    let sources := (fields.filter fun f => f.1.tag = .merge).map (·.2)
    let before ← sources.mapM fun source => match source with
      | .list _ items => do return (← items.mapM ofRecord).reverse.flatten
      | source => ofRecord source
    let own := (fields.filter fun f => f.1.tag ≠ .merge).map fun f => (f.1.asKey, f.2)
    return before.flatten ++ own

/-- Two fields have the same text as their key. -/
def hasTwin : List (Tree × Tree) → Bool
  | [] => false
  | (.word .text name, _) :: fields =>
    (fields.any fun f => match f.1 with
      | .word .text other => name == other
      | _ => false) || hasTwin fields
  | _ :: fields => hasTwin fields

end Tree

/-- A word of a document as a value. -/
def Word.ofTree (tag : Tag) (text : String) : Except TableError Word :=
  match tag with
  | .null => .ok .null
  | .truth =>
    let word := String.ofList (Text.lowered text.toList)
    if ["yes", "true", "on"].contains word then .ok (.truth true)
    else if ["no", "false", "off"].contains word then .ok (.truth false)
    else .error (.noTruth word)
  | .whole => (wholeOf text).map .whole
  | .real => (realOf text).map .real
  | .text => .ok (.text text)
  | .octets =>
    if text.toList.all (·.toNat < 0x80) then
      match Base64.decode text.toList with
      | some bs => .ok (.octets bs)
      | none => .error .unconstructible
    else .error .unconstructible
  | .instant => (Instant.kind text).map .other
  | _ => .error .unconstructible

/-- The path that parts lead to, each of which is a text or a path. -/
def pathOfParts (parts : List Node) : Except TableError Path :=
  parts.foldlM (fun path part => match part with
    | .word (.text s) => .ok (path.join (Path.ofString s))
    | .word (.path p) => .ok (path.join p)
    | _ => .error .wrongType) ⟨.here, []⟩

/-- A fault in a document and how deep it lies. -/
structure Flaw where
  depth : Nat
  cause : TableError

namespace Flaw

/-- Of two values, both; of two flaws, the one that lies less deep, or else the first. -/
def both {α β : Type} : Except Flaw α → Except Flaw β → Except Flaw (α × β)
  | .ok a, .ok b => .ok (a, b)
  | .error e, .ok _ => .error e
  | .ok _, .error f => .error f
  | .error e, .error f => .error (if f.depth < e.depth then f else e)

/-- The values of a list, or of the flaws the one that lies least deep. -/
def all {α : Type} : List (Except Flaw α) → Except Flaw (List α)
  | [] => .ok []
  | x :: xs => (both x (all xs)).map fun (a, as) => a :: as

end Flaw

namespace Node

/-- The node may be a key. -/
def isKey : Node → Bool
  | word (.other kind) => kind != "set"
  | word _ => true
  | _ => false

/-- A key with its value added to fields; a key that counts as one of theirs only gives it
another value. -/
def addField (fields : List (Word × Node)) (key : Word) (value : Node) : List (Word × Node) :=
  if fields.any (fun f => f.1.same key) then
    fields.map fun f => if f.1.same key then (f.1, value) else f
  else fields ++ [(key, value)]

/-- The value of a tree. What is wrong about a value itself lies as deep as the list or record
that holds it; what is wrong about the parts of a list or record lies deeper by one. -/
def ofTree : Nat → Nat → Tree → Except Flaw Node
  | 0, depth, _ => .error ⟨depth, .unconstructible⟩
  | fuel + 1, depth, tree =>
    let here {α : Type} (r : Except TableError α) : Except Flaw α := r.mapError (Flaw.mk depth)
    let below : Except Flaw Node := .error ⟨depth + 1, .unconstructible⟩
    let items (at_ : Nat) (trees : List Tree) : Except Flaw (List Node) :=
      Flaw.all (trees.map (ofTree fuel at_))
    let fields (all : List (Tree × Tree)) : Except Flaw (List (Word × Node)) :=
      let flaw : Except Flaw (List (Word × Node)) := .error ⟨depth + 1, .unconstructible⟩
      if Tree.hasTwin all then flaw
      else
        match Tree.merged fuel all with
        | none => flaw
        | some all => do
          let pairs ← Flaw.all (all.map fun (k, x) =>
            let key := do
              match ← ofTree fuel (depth + 1) k with
              | .word w => if isKey (.word w) then pure w else throw ⟨depth + 1, .unconstructible⟩
              | _ => throw ⟨depth + 1, .unconstructible⟩
            Flaw.both key (ofTree fuel (depth + 1) x))
          return pairs.foldl (fun done (k, x) => addField done k x) []
    -- a part that is no word does not fit, whatever is wrong inside it
    let path (trees : List Tree) : Except Flaw Path :=
      match items depth trees with
      | .ok parts => here (pathOfParts parts)
      | .error flaw => .error (if depth < flaw.depth then ⟨depth, .wrongType⟩ else flaw)
    match tree.tag, tree with
    | .list, .list _ trees => list <$> items (depth + 1) trees
    | .record, .record _ all => record <$> fields all
    | .members, .record _ all => (fields all).map fun _ => word (.other "set")
    | .pairs, .list _ trees | .orderedPairs, .list _ trees =>
      list <$> Flaw.all (trees.map fun pair => match pair with
        | .record _ [(k, x)] =>
          (Flaw.both (ofTree fuel (depth + 1) k) (ofTree fuel (depth + 1) x)).map fun (k, x) =>
            list [k, x]
        | _ => below)
    | .path, .list _ trees => (word ∘ .path) <$> path trees
    | .foreignPath, .list _ trees => do
      let _ ← path trees
      here (throw .foreignPath)
    | .list, _ | .record, _ | .members, _ | .pairs, _ | .orderedPairs, _ => below
    | tag, tree =>
      match tree.scalarText with
      | some text => word <$> here (Word.ofTree tag text)
      | none => here (throw .unconstructible)

/-- The most values that a document may hold when nothing else is said, those that bear a
name counting each time they are referred to. -/
def usualLimit : Nat := 1000000

/-- The value of a document with at most `limit` values. -/
def ofDocument (limit : Nat) (cs : List Char) : Except TableError Node := do
  match ← Tree.ofChars cs with
  | none => return word .null
  | some tree =>
    if (tree.spend limit).isNone then throw .unconstructible
    ((ofTree (limit + 1) 0 tree).mapError (·.cause))

end Node

end TexBuild.Table
