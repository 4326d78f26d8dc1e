import PlayTrace.CommandLine.Run
import PlayTrace.Trace.Parquet

/-!
# The program

The command line, run on the disk.
-/

namespace PlayTrace

namespace Disk

/-- The cause that an error of the system stands for. -/
def faultOf : IO.Error → FileFault
  | .noFileOrDirectory .. => .notFound
  | .alreadyExists .. => .alreadyExists
  | .inappropriateType _ 21 _ => .isDirectory
  | .inappropriateType .. => .notDirectory
  | .invalidArgument _ 36 _ => .nameTooLong
  | .permissionDenied _ code details => .other code.toNat details
  | e => .other 0 (toString e)

/-- Carries out an access to the disk. -/
def access {α : Type} (x : IO α) : IO (Except FileFault α) := do
  try
    return .ok (← x)
  catch e =>
    return .error (faultOf e)

/-- A content as the bytes of a file. -/
def contentBytes : Content → ByteArray
  | .text s => s.toUTF8
  | .rows rows => ⟨(Parquet.encode rows).toArray⟩

/-- The files and directories of the disk. -/
def system : FileSystem IO where
  read p := do return (← access (IO.FS.readFile p.text)).map Text.unifyBreaks
  makeDirectory p := access (IO.FS.createDirAll p.text)
  write p c := access (IO.FS.writeBinFile p.text (contentBytes c))

end Disk

/-- The text printed on request. -/
def helpText : String :=
  "usage: " ++ " ".intercalate (CommandLine.spellings.map CommandLine.Spelling.text) ++ "\n"

/-- What is printed about a failure. -/
def CommandLine.RunFailure.message : CommandLine.RunFailure → String
  | configNotPath => "the configuration file is not named"
  | configInteger f => f.message
  | configTooDeep => "the configuration file goes too deep"
  | configNotMapping => "the configuration file holds no mapping"
  | reservedLevel r => r.message
  | document _ => "a document cannot be dealt with"
  | setting f => f.message
  | file _ => "a file cannot be used"
  | game f => f.message
  | play f => f.message

end PlayTrace

open PlayTrace in
/-- Runs the program. -/
def main (argv : List String) : IO UInt32 := do
  match ← (CommandLine.run Disk.system argv).run with
  | .ok out =>
    IO.print out
    return 0
  | .error .help =>
    IO.print helpText
    return 0
  | .error (.usage f) =>
    IO.eprintln s!"error: {f.message}"
    return 2
  | .error (.failure f) =>
    IO.eprintln f.message
    return 1
