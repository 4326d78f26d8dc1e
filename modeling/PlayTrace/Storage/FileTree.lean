import PlayTrace.Storage.FileSystem
import PlayTrace.Text.Lines

/-!
# File trees

A file system held in memory. A place in it is told by the names that lead to it from the working
directory, with parents only in front; a place below the root begins with the name of the root.
Directories come into being by being made, and by the files in them. The working directory, its
parents, and the root are always there.
-/

namespace PlayTrace

/-- Files and directories held in memory. -/
structure FileTree where
  /-- the files by their places -/
  files : List (List String × Content)
  /-- the places of the directories made -/
  directories : List (List String)

namespace FileTree

/-- The name of the root. -/
def rootName : String := "/"

/-- The name of the parent of a directory. -/
def parentName : String := ".."

variable (t : FileTree)

/-- The content of the file at a place. -/
def content? (place : List String) : Option Content :=
  (t.files.find? fun e => e.1 == place).map Prod.snd

/-- Whether there is a file at a place. -/
def isFile (place : List String) : Bool := (t.content? place).isSome

/-- Whether there is a directory at a place. -/
def isDirectory (place : List String) : Bool :=
  place.all (· == parentName) || place == [rootName] ||
    (t.directories.any fun d => place.isPrefixOf d) ||
    (t.files.any fun e => place.isPrefixOf e.1 && place ≠ e.1)

/-- The place that a step leads to from a directory. -/
def enter (place : List String) (step : String) : List String :=
  if step ≠ parentName then place ++ [step]
  else if place == [rootName] then place
  else if place.all (· == parentName) then place ++ [parentName]
  else place.dropLast

/-- The greatest number of bytes that a step of a path takes up in UTF-8. -/
def maxStepSize : Nat := 255

/-- The greatest number of bytes that a path takes up in UTF-8. -/
def maxPathSize : Nat := 4095

/-- The place that steps lead to from a place. All places on the way must be directories. -/
def walk (place : List String) : List String → Except FileFault (List String)
  | [] => .ok place
  | step :: steps =>
    if t.isFile place then .error .notDirectory
    else if !t.isDirectory place then .error .notFound
    else if maxStepSize < step.utf8ByteSize then .error .nameTooLong
    else walk (enter place step) steps

/-- The place that a path starts from. -/
def origin (p : Path) : List String :=
  match p.anchor with
  | .here => []
  | .root | .doubleRoot => [rootName]

/-- Why a path cannot even be looked for. -/
def pathFault? (p : Path) : Option FileFault :=
  if p.steps.any fun s => s.toList.contains '\x00' then some .nullCharacter
  else if maxPathSize < p.text.utf8ByteSize then some .nameTooLong
  else none

/-- The place of a path. -/
def locate (p : Path) : Except FileFault (List String) :=
  match pathFault? p with
  | some f => .error f
  | none => t.walk (origin p) p.steps

/-- Reads a text file. A trace log holds no text. -/
def read (p : Path) : Except FileFault String := do
  let place ← t.locate p
  match t.content? place with
  | some (.text s) => return Text.unifyBreaks s
  | some (.rows _) => return ""
  | none => if t.isDirectory place then throw .isDirectory else throw .notFound

/-- Makes the directories on the way from a place. -/
def makeSteps (t : FileTree) (place : List String) : List String → Except FileFault FileTree
  | [] => .ok t
  | step :: steps =>
    let next := enter place step
    if maxStepSize < step.utf8ByteSize then .error .nameTooLong
    else if t.isFile next then .error (if steps.isEmpty then .alreadyExists else .notDirectory)
    else
      makeSteps (if t.isDirectory next then t else { t with directories := next :: t.directories })
        next steps

/-- Makes a directory, and those it lies in. -/
def makeDirectory (p : Path) : Except FileFault FileTree :=
  match pathFault? p with
  | some f => .error f
  | none => t.makeSteps (origin p) p.steps

/-- Puts a content at a place. -/
def put (place : List String) (c : Content) :
    List (List String × Content) → List (List String × Content)
  | [] => [(place, c)]
  | e :: es => if e.1 == place then (place, c) :: es else e :: put place c es

/-- Writes a file. -/
def write (p : Path) (c : Content) : Except FileFault FileTree := do
  let place ← t.locate p
  if t.isDirectory place then throw .isDirectory
  return { t with files := put place c t.files }

/-- The tree of text files with the given names. -/
def ofTexts (files : List (String × String)) : FileTree where
  files := files.map fun e => ((Path.ofText e.1).steps, .text e.2)
  directories := []

/-- Carries out a change of the tree, which leaves it as it is when it fails. -/
def change (f : FileTree → Except FileFault FileTree) : StateM FileTree (Except FileFault Unit) :=
  fun t =>
    match f t with
    | .ok t => (.ok (), t)
    | .error e => (.error e, t)

/-- A tree that changes as it is used. -/
def system : FileSystem (StateM FileTree) where
  read p := fun t => (t.read p, t)
  makeDirectory p := change fun t => t.makeDirectory p
  write p c := change fun t => t.write p c

end FileTree

end PlayTrace
