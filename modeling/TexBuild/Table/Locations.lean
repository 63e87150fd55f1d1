import TexBuild.Path.Basic
import TexBuild.Table.Resolve

namespace TexBuild.Table

/-- An entry of the table: the beginning of a platform's name and the path of an
engine, with references to the home directory and to the engine's name. -/
structure Location where
  platform : String
  template : String

/-- The packaged table: where the usual distributions put their engines, in the
order in which the places are tried. -/
def packaged : List Location :=
  [⟨"win32", "$\x7bhome\x7d/AppData/Local/Programs/MiKTeX/miktex/bin/x64/$\x7btool\x7d.exe"⟩,
    ⟨"win32", "C:/Program Files/MiKTeX/miktex/bin/x64/$\x7btool\x7d.exe"⟩,
    ⟨"win32", "C:/Program Files (x86)/MiKTeX/miktex/bin/x64/$\x7btool\x7d.exe"⟩,
    ⟨"win32", "C:/MiKTeX/miktex/bin/x64/$\x7btool\x7d.exe"⟩,
    ⟨"darwin", "/Library/TeX/texbin/$\x7btool\x7d"⟩,
    ⟨"darwin", "/opt/texbin/$\x7btool\x7d"⟩,
    ⟨"darwin", "$\x7bhome\x7d/.texlive/bin/universal-darwin/$\x7btool\x7d"⟩,
    ⟨"linux", "/usr/bin/$\x7btool\x7d"⟩,
    ⟨"linux", "/usr/local/bin/$\x7btool\x7d"⟩,
    ⟨"linux", "/opt/texbin/$\x7btool\x7d"⟩,
    ⟨"linux", "$\x7bhome\x7d/.texlive/bin/x86_64-linux/$\x7btool\x7d"⟩]

/-- An entry as a value of the notation. -/
def Location.node (l : Location) : Node :=
  .record [(.text "platform", .word (.text l.platform)), (.text "path", .word (.text l.template))]

/-- The packaged table as a value of the notation. -/
def packagedNode : Node :=
  .record [(.text "locations", .list (packaged.map Location.node))]

/-- The packaged table, unless it holds more values than a document may. -/
def packagedTable (environment : Environment) : Except TableError Node := do
  if (← Node.limit environment) < packagedNode.size then throw .unconstructible
  return packagedNode

/-- Fields with a name set to a text. A text that is still to be given leaves what is there. -/
def setName (fields : List (Word × Node)) (name text : String) : List (Word × Node) :=
  if text = missingMark ∧ fields.any (Node.isNamed name) then fields
  else Node.setField fields name (.word (.text text))

/-- The table with the home directory and the name of the engine added at its top. A table
that is not a record has no place for them. -/
def withNames (table : Node) (home tool : String) : Except TableError Node := do
  Word.checkValue (.text home)
  Word.checkValue (.text tool)
  match table with
  | .record fields => return .record (setName (setName fields "home" home) "tool" tool)
  | _ => throw .wrongType

/-- The path of an entry that is meant for the platform. The platform of the entry is looked
at first. -/
def entryPath (platform : String) (entry : Node) : Except TableError (Option Path) :=
  match entry with
  | .record _ =>
    match entry.field? "platform" with
    | none => .error (.missingField "platform")
    | some (.word (.text start)) =>
      if !start.toList.isPrefixOf platform.toList then .ok none
      else
        match entry.field? "path" with
        | none => .error (.missingField "path")
        | some (.word (.text path)) => .ok (some (Path.ofString path))
        | some (.word (.path path)) => .ok (some path)
        | some _ => .error .wrongType
    | some _ => .error .wrongType
  | _ => .error .wrongType

/-- The entries of a resolved table. No list of locations is an empty one; a text or a record
in its place is gone through piece by piece, none of which is an entry. -/
def entries (table : Node) : Except TableError (List Node) :=
  match table.field? "locations" with
  | none => .ok []
  | some (.list items) => .ok items
  | some (.word (.text t)) => .ok (t.toList.map fun c => .word (.text c.toString))
  | some (.word (.octets bs)) => .ok (bs.map fun b => .word (.whole b.toNat))
  | some (.record fields) => .ok (fields.map fun f => .word f.1)
  | some (.word _) => .error .wrongType

/-- The install paths that a table gives for a platform, in its order. All texts of the table
are resolved, those for other platforms too. -/
def knownLocations (environment : Environment) (table : Node) (tool platform : String)
    (home : Path) : Except TableError (List Path) := do
  let table ← resolved environment (← withNames table home.text tool)
  let paths ← (← entries table).mapM (entryPath platform)
  return paths.filterMap id

end TexBuild.Table
