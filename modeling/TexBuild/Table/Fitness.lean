import TexBuild.Environment
import TexBuild.Table.Reference
import TexBuild.Table.Value

-- After OmegaConf's checks of the keys and values of a container, and its `load`.

namespace TexBuild.Table

namespace Word

/-- A word that may be a key of a table. -/
def isTableKey : Word → Bool
  | null | path _ | other _ => false
  | _ => true

/-- Nothing, or why the word may not be a value of a table: a text has well-formed references
only. -/
def checkValue : Word → Except TableError Unit
  | text s => if (piece? s.toList).isSome then .ok () else .error .badReference
  | other _ => .error .unfitValue
  | _ => .ok ()

end Word

namespace Node

mutual

/-- Nothing, or why the value may not be part of a table. Keys have to be fit, and no two of
one record may be spelled alike. -/
def check : Node → Except TableError Unit
  | .word w => w.checkValue
  | .list items => checkItems items
  | .record fields => checkFields [] fields

def checkItems : List Node → Except TableError Unit
  | [] => .ok ()
  | x :: xs => do
    check x
    checkItems xs

def checkFields (names : List (Option String)) : List (Word × Node) → Except TableError Unit
  | [] => .ok ()
  | (k, x) :: fields => do
    let name := k.inText?
    if !k.isTableKey || names.contains name then throw .unfitKey
    check x
    checkFields (name :: names) fields

end

/-- The variable that says how many values a document may hold. -/
def limitVariable : String := "OMEGACONF_MAX_YAML_EXPANDED_NODES"

/-- The most values that a document may hold. -/
def limit (environment : Environment) : Except TableError Nat :=
  match environment.get? limitVariable with
  | none => .ok usualLimit
  | some text => (Numeral.whole 10 text).toOption.elim (.error (.noWhole (.notANumeral 10 text)))
      fun n => .ok n.toNat

/-- The table that a value of a document is: nothing is an empty one, and a text is read once
more as a document, one that is only a text being the name of a field without a value. -/
def asTable (limit : Nat) (node : Node) : Except TableError Node := do
  let table ← match node with
    | .word .null => pure (.record [])
    | .word (.text s) =>
      match ← ofDocument limit s.toList with
      | .word .null => pure (.record [])
      | .word (.text name) => pure (.record [(.text name, .word .null)])
      | .word _ => throw .neverATable
      | inner => pure inner
    | .word w => throw (.notATable w.kind)
    | node => pure node
  check table
  return table

/-- The table that a document holds. -/
def tableOf (environment : Environment) (cs : List Char) : Except TableError Node := do
  let limit ← limit environment
  asTable limit (← ofDocument limit cs)

end Node

end TexBuild.Table
