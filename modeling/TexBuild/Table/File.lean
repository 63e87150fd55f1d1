import TexBuild.Build.Directory
import TexBuild.Table.Locations
import TexBuild.Tool.Search

namespace TexBuild.Table

/-- The table in a file. What is refused carries the absolute path. -/
def ofFile (h : Host) (file : Path) : Except Fault Node := do
  let path := h.lexicalPath file
  unless Volume.isClean path do throw (.unfit path.text)
  let bytes ← (h.volume.read h.cwd path.text).mapError fun e =>
    .table (.unreadable (.about e path.text))
  match Utf8.misfit? bytes with
  | some m => throw (.table (.undecodable m))
  | none => (Node.tableOf h.environment (Text.unifyLineEnds (Utf8.decode bytes))).mapError .table

/-- The install paths that a table gives: that in a file, or else the packaged one. The
home directory is that of the user unless another one is given. -/
def locations (h : Host) (tool platform : String) (home : Option Path) (file : Option Path) :
    Except Fault (List Path) := do
  let node ← match file with
    | some f => ofFile h f
    | none => (packagedTable h.environment).mapError .table
  (knownLocations h.environment node tool platform (home.getD (Search.homeFor h platform))).mapError
    .table

end TexBuild.Table
