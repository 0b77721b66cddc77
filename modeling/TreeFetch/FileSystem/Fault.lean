/-!
# Why the file system refuses

The faults of operations on files and folders, with the wording of the operating system.
-/

namespace TreeFetch.FileSystem

/-- Why an operation on a path fails. -/
inductive Fault
  | notFound
  | «exists»
  | notFolder
  | isFolder
  | nameTooLong
  | tooManyLinks
  /-- The path holds a character that no path can hold. -/
  | nulInPath
deriving Repr, DecidableEq, Inhabited

def Fault.message : Fault → String
  | notFound => "No such file or directory (os error 2)"
  | «exists» => "File exists (os error 17)"
  | notFolder => "Not a directory (os error 20)"
  | isFolder => "Is a directory (os error 21)"
  | nameTooLong => "File name too long (os error 36)"
  | tooManyLinks => "Too many levels of symbolic links (os error 40)"
  | nulInPath => "file name contained an unexpected NUL byte"

end TreeFetch.FileSystem
