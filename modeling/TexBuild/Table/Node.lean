import TexBuild.Number.Seconds
import TexBuild.Path.Basic
import TexBuild.Text.Quoted

-- What the package OmegaConf holds a table in. Embedded of it are `load` (`Fitness`), the grammar of
-- interpolations (`Reference`), and `merge` and `to_container` with all of them resolved (`Locations`,
-- `Resolve`), with the resolvers that come with the package.

namespace TexBuild.Table

/-- A value without parts. What no table may hold is only known by its kind. -/
inductive Word where
  | null
  | truth (b : Bool)
  | whole (n : Int)
  | real (x : Binary64)
  | text (s : String)
  | octets (bs : List UInt8)
  | path (p : Path)
  | other (kind : String)
deriving DecidableEq

/-- A value of the notation in which tables are kept. A record lists its fields in the
order of the text. -/
inductive Node where
  | word (w : Word)
  | list (items : List Node)
  | record (fields : List (Word × Node))

namespace Word

/-- The whole number that a number or a truth value is equal to. -/
def asWhole? : Word → Option Int
  | truth b => some (if b then 1 else 0)
  | whole n => some n
  | real x => x.truncate?.filter x.isInt
  | _ => none

/-- Two words that count as one key: numbers and truth values by their value. -/
def same : Word → Word → Bool
  | null, null => true
  | text s, text t => s == t
  | octets bs, octets cs => bs == cs
  | path p, path q => p == q
  | v, w =>
    match v.asWhole?, w.asWhole?, v, w with
    | some m, some n, _, _ => m == n
    | none, none, real x, real y => x == y && x != .nan
    | _, _, _, _ => false

/-- The word in a running text, unless it is a number with too many digits. -/
def inText? : Word → Option String
  | null => some "None"
  | truth b => some (if b then "True" else "False")
  | whole n => (wholeText n).toOption
  | real x => some x.toText
  | text s => some s
  | octets bs => some (String.ofList (Quoted.encodeOctets bs))
  | path p => some p.text
  | other kind => some kind

/-- The word as a part of a value that is written out. -/
def literal? : Word → Option String
  | text s => some (quoted s)
  | path p => some ("PosixPath(" ++ quoted p.text ++ ")")
  | w => w.inText?

/-- The kind of a word, for one that is no table. -/
def kind : Word → String
  | null => "NoneType"
  | truth _ => "bool"
  | whole _ => "int"
  | real _ => "float"
  | text _ => "str"
  | octets _ => "bytes"
  | path _ => "PosixPath"
  | other kind => kind

end Word

namespace Node

/-- The key of a field is spelled so. -/
def isNamed (name : String) (field : Word × Node) : Bool :=
  field.1.inText? == some name

/-- The field of a record with a name. -/
def field? (name : String) : Node → Option Node
  | record fields => (fields.find? (isNamed name)).map (·.2)
  | _ => none

/-- Fields with one of them set: where it is, or else at the end. -/
def setField (fields : List (Word × Node)) (name : String) (value : Node) : List (Word × Node) :=
  if fields.any (isNamed name) then
    fields.map fun f => if isNamed name f then (f.1, value) else f
  else fields ++ [(.text name, value)]

mutual

/-- The value in a running text or as a part of another one, unless it holds a number with
too many digits. -/
def literal? : Node → Option String
  | word w => w.literal?
  | list items => (itemLiterals? items).map fun ts => "[" ++ ", ".intercalate ts ++ "]"
  | record fields =>
    (fieldLiterals? fields).map fun ts => "\x7b" ++ ", ".intercalate ts ++ "\x7d"

def itemLiterals? : List Node → Option (List String)
  | [] => some []
  | x :: xs => do return (← x.literal?) :: (← itemLiterals? xs)

def fieldLiterals? : List (Word × Node) → Option (List String)
  | [] => some []
  | (k, x) :: fields => do
    return ((← k.literal?) ++ ": " ++ (← x.literal?)) :: (← fieldLiterals? fields)

end

/-- The value in a running text. -/
def inText? : Node → Option String
  | word w => w.inText?
  | x => x.literal?

mutual

/-- The number of values in a value, itself and the keys included. -/
def size : Node → Nat
  | word _ => 1
  | list items => 1 + sizeOfItems items
  | record fields => 1 + sizeOfFields fields

def sizeOfItems : List Node → Nat
  | [] => 0
  | x :: xs => x.size + sizeOfItems xs

def sizeOfFields : List (Word × Node) → Nat
  | [] => 0
  | (_, x) :: fields => 1 + x.size + sizeOfFields fields

end

mutual

/-- The number of characters in the texts of a value. -/
def letters : Node → Nat
  | word (.text s) => s.length
  | word _ => 0
  | list items => lettersOfItems items
  | record fields => lettersOfFields fields

def lettersOfItems : List Node → Nat
  | [] => 0
  | x :: xs => x.letters + lettersOfItems xs

def lettersOfFields : List (Word × Node) → Nat
  | [] => 0
  | (_, x) :: fields => x.letters + lettersOfFields fields

end

end Node

end TexBuild.Table
