/-!
# Paths

The name of a file or directory as a sequence of steps from a starting place. Empty steps and steps
that stay where they are do not count; a step to the parent directory is kept as it stands, since
only the file system knows where it leads.
-/

namespace PlayTrace

/-- The place that a path starts from. -/
inductive Anchor where
  /-- the working directory -/
  | here
  /-- the root of the file system -/
  | root
  /-- the root written with exactly two strokes, which is kept apart from the root -/
  | doubleRoot
deriving DecidableEq

/-- What a path is written with before its steps. -/
def Anchor.text : Anchor → String
  | here => ""
  | root => "/"
  | doubleRoot => "//"

/-- The name of a file or directory. -/
structure Path where
  anchor : Anchor
  steps : List String
deriving DecidableEq

namespace Path

/-- The pieces of a text between its strokes. -/
def splitStrokes : List Char → List (List Char)
  | [] => [[]]
  | c :: cs =>
    if c = '/' then [] :: splitStrokes cs
    else
      match splitStrokes cs with
      | [] => [[c]]
      | p :: ps => (c :: p) :: ps

/-- Whether a piece between two strokes leads to another place. -/
def isStep (piece : String) : Bool := piece ≠ "" && piece ≠ "."

/-- The anchor of a written path, told by the number of strokes in front. -/
def anchorOf (cs : List Char) : Anchor :=
  match (cs.takeWhile (· = '/')).length with
  | 0 => .here
  | 2 => .doubleRoot
  | _ => .root

/-- Reads a path. -/
def ofText (s : String) : Path where
  anchor := anchorOf s.toList
  steps := ((splitStrokes s.toList).map String.ofList).filter isStep

/-- The path as it is written; the working directory is a single dot. -/
def text (p : Path) : String :=
  if p.anchor = .here && p.steps.isEmpty then "."
  else p.anchor.text ++ "/".intercalate p.steps

/-- The path `q` seen from `p`; a path that has an anchor of its own is the same from everywhere. -/
def join (p q : Path) : Path :=
  match q.anchor with
  | .here => { p with steps := p.steps ++ q.steps }
  | _ => q

/-- The path that is written `s` when seen from `p`. -/
def child (p : Path) (s : String) : Path := p.join (ofText s)

end Path

end PlayTrace
