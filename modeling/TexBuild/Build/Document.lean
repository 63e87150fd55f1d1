import TexBuild.Path.Basic

namespace TexBuild

/-- The document that is open, if one is. -/
structure Document where
  current : Option Path
deriving DecidableEq

/-- What can happen to the open document. -/
inductive DocumentEvent where
  | opened (path : Path)
  | cleared
deriving DecidableEq

/-- The document after an event: the last one opened since the last clearing. -/
def Document.after (_ : Document) : DocumentEvent → Document
  | .opened path => ⟨some path⟩
  | .cleared => ⟨none⟩

end TexBuild
