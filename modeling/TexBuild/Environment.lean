import TexBuild.Lookup
import TexBuild.Text.Lines

namespace TexBuild

/-- The variables that a child is started with, each with its text. The first
entry of a name is the one that counts. -/
abbrev Environment := List (String × String)

namespace Environment

/-- The text of a variable. -/
def get? (env : Environment) (name : String) : Option String :=
  env.lookup name

/-- The variables without one of them. -/
def unset (env : Environment) (name : String) : Environment :=
  eraseKey name env

/-- The variables with one of them set. -/
def set (env : Environment) (name text : String) : Environment :=
  insertKey name text env

@[simp] theorem get?_set_self (env : Environment) (name text : String) :
    (env.set name text).get? name = some text :=
  lookup_insertKey_self name text env

theorem get?_set_of_ne {name other : String} (env : Environment) (text : String)
    (h : other ≠ name) : (env.set name text).get? other = env.get? other :=
  lookup_insertKey_of_ne h text env

/-- The entries of a list of directories, which colons separate. -/
def searchEntries (path : String) : List String :=
  (Text.pieces ':' path.toList).map String.ofList

end Environment

end TexBuild
