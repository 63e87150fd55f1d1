import TexBuild.Text.Quoted

namespace TexBuild

/-- Why the system refuses a request about files or processes. -/
inductive Errno where
  | noEntry
  | noFormat
  | badDescriptor
  | accessDenied
  | exists
  | notDirectory
  | isDirectory
  | invalid
  | nameTooLong
  | notEmpty
  | linkLoop
deriving DecidableEq, Repr

namespace Errno

/-- The number of a refusal. -/
def code : Errno → Int
  | .noEntry => 2
  | .noFormat => 8
  | .badDescriptor => 9
  | .accessDenied => 13
  | .exists => 17
  | .notDirectory => 20
  | .isDirectory => 21
  | .invalid => 22
  | .nameTooLong => 36
  | .notEmpty => 39
  | .linkLoop => 40

/-- A refusal in words. -/
def text : Errno → String
  | .noEntry => "No such file or directory"
  | .noFormat => "Exec format error"
  | .badDescriptor => "Bad file descriptor"
  | .accessDenied => "Permission denied"
  | .exists => "File exists"
  | .notDirectory => "Not a directory"
  | .isDirectory => "Is a directory"
  | .invalid => "Invalid argument"
  | .nameTooLong => "File name too long"
  | .notEmpty => "Directory not empty"
  | .linkLoop => "Too many levels of symbolic links"

end Errno

/-- A refusal as it reaches the user: by its number and reason, with the path
that it is about; in words of its own; or because a pipe is no file to copy. -/
inductive SystemError where
  | numbered (code : Int) (reason : String) (subject : Option String)
  | described (text : String)
  | pipe (path : String)
deriving DecidableEq, Repr

namespace SystemError

/-- The refusal of a request about one path. -/
def about (e : Errno) (path : String) : SystemError :=
  .numbered e.code e.text (some path)

/-- The refusal of a request about no path in particular. -/
def ofErrno (e : Errno) : SystemError :=
  .numbered e.code e.text none

/-- The whole text of a refusal. -/
def message : SystemError → String
  | .numbered code reason none => s!"[Errno {code}] {reason}"
  | .numbered code reason (some path) => s!"[Errno {code}] {reason}: {quoted path}"
  | .described text => text
  | .pipe path => "\x60" ++ path ++ "\x60 is a named pipe"

/-- The refusal says that something is there already. -/
def isExistence : SystemError → Bool
  | .numbered code _ _ => code == Errno.exists.code
  | _ => false

/-- The reason alone, where there is one. -/
def reason? : SystemError → Option String
  | .numbered _ reason _ => some reason
  | _ => none

/-- The reason alone, or the whole text when no reason is given. -/
def brief (e : SystemError) : String :=
  match e.reason? with
  | some reason => if reason = "" then e.message else reason
  | none => e.message

end SystemError

end TexBuild
