-- The tokens of PyYAML's scanner.

namespace TexBuild.Table

/-- How the words of a document are bound together: by indentation or by brackets. -/
inductive Token where
  | streamEnd
  | version (major minor : Nat)
  | handle (name : String) (start : String)
  | documentStart
  | documentEnd
  | listBlock
  | recordBlock
  | blockEnd
  | openList
  | closeList
  | openRecord
  | closeRecord
  | item
  | comma
  | key
  | value
  | anchor (name : String)
  | reference (name : String)
  | tag (handle suffix : String)
  | word (isPlain : Bool) (text : String)
deriving DecidableEq

end TexBuild.Table
