import PlayTrace.Storage.Path
import PlayTrace.Text.Quoted
import PlayTrace.Trace.Log

/-!
# File systems

What a program needs of a file system, whatever the file system is: reading a text file, making
directories, and writing a text file or a trace log. `FileSystem m` gives these three in a monad
`m`, so that a program that uses them can be run on the disk as well as on a tree held in memory.
-/

namespace PlayTrace

/-- Why a file or directory cannot be used. -/
inductive FileFault where
  | notFound
  /-- a file is asked for, and there is a directory -/
  | isDirectory
  /-- a path goes on where there is a file -/
  | notDirectory
  /-- a directory is to be made where there is a file -/
  | alreadyExists
  /-- the path, or a step of it, is too long -/
  | nameTooLong
  /-- the path holds the character that ends paths -/
  | nullCharacter
  /-- the system refuses the access for a cause of its own -/
  | other (code : Nat) (description : String)
deriving DecidableEq

/-- The wording of a cause, with the number the system has for it. -/
def FileFault.system (code : Nat) (description : String) (p : Path) : String :=
  s!"[Errno {code}] {description}: {Text.quoted p.text}"

/-- The wording of a cause, for a path that is the matter of it. -/
def FileFault.message (p : Path) : FileFault → String
  | notFound => system 2 "No such file or directory" p
  | isDirectory => system 21 "Is a directory" p
  | notDirectory => system 20 "Not a directory" p
  | alreadyExists => system 17 "File exists" p
  | nameTooLong => system 36 "File name too long" p
  | nullCharacter => "embedded null byte"
  | other code description => system code description p

/-- What a file holds. -/
inductive Content where
  | text (s : String)
  | rows (rows : List LogRow)
deriving DecidableEq

/-- Access to files and directories. -/
structure FileSystem (m : Type → Type) where
  /-- reads a text file, with its line breaks unified -/
  read : Path → m (Except FileFault String)
  /-- makes a directory, and those it lies in, unless they are there -/
  makeDirectory : Path → m (Except FileFault Unit)
  /-- writes a file, in place of what may be there -/
  write : Path → Content → m (Except FileFault Unit)

end PlayTrace
