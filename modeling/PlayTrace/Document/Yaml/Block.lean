import PlayTrace.Document.Yaml.Basic

/-!
# Block scalars

Scalars that are told from the rest of the document by their indentation. In a literal one every
line break counts; in a folded one a break between two lines that begin without a blank stands for a
blank. The header says what becomes of the breaks at the end, and may say how deep the scalar is
indented; otherwise its first lines tell.
-/

namespace PlayTrace

namespace Yaml

/-- What becomes of the line breaks at the end of a block scalar. -/
inductive Chomping where
  /-- all of them are dropped -/
  | strip
  /-- all but the first are dropped -/
  | clip
  /-- all of them are kept -/
  | keep
deriving DecidableEq

/-- What the header of a block scalar says. -/
structure BlockHeader where
  chomping : Chomping
  /-- the indentation relative to the surroundings, if it is given -/
  indentation : Option Nat

/-- The way of chomping that a sign asks for. -/
def chomping? : Char → Option Chomping
  | '+' => some .keep
  | '-' => some .strip
  | _ => none

/-- Reads the digit of a header, if there is one; it must not be zero. -/
def readIndentation : List Char → Except Fault (Option Nat × List Char)
  | [] => .ok (none, [])
  | c :: cs =>
    if '0' ≤ c && c ≤ '9' then
      if c == '0' then .error .malformed else .ok (some (c.toNat - 48), cs)
    else .ok (none, c :: cs)

/-- Reads the sign of a header, if there is one. -/
def readChomping : List Char → Option Chomping × List Char
  | [] => (none, [])
  | c :: cs =>
    match chomping? c with
    | some s => (some s, cs)
    | none => (none, c :: cs)

/-- Reads the header of a block scalar, which goes up to the end of its line. Sign and digit may come
in either order. -/
def readBlockHeader (cs : List Char) : Except Fault (BlockHeader × List Char) := do
  let (sign, cs) := readChomping cs
  let (digit, cs) ← readIndentation cs
  let (sign, cs) := match sign, digit with
    | none, some _ => readChomping cs
    | _, _ => (sign, cs)
  if !(atLineEnd cs || cs.head? == some ' ') then throw .malformed
  let cs := cs.dropWhile (· == ' ')
  let cs := if cs.head? == some '#' then cs.dropWhile fun c => !isBreak c else cs
  if atLineEnd cs then return (⟨sign.getD .clip, digit⟩, cs.drop 1) else throw .malformed

/-- The beginning of a line of a block scalar, after line breaks and indentation. -/
structure BlockLine where
  /-- the line breaks passed -/
  breaks : List Char
  /-- the column reached -/
  column : Nat
  rest : List Char

namespace BlockLine

/-- Passes line breaks and at most `indent` blanks of a line, from the given column on. -/
def pass (indent column : Nat) : List Char → BlockLine
  | [] => ⟨[], column, []⟩
  | c :: cs =>
    if isBreak c then
      let l := pass indent 0 cs
      { l with breaks := keptBreak c :: l.breaks }
    else if c == ' ' && column < indent then pass indent (column + 1) cs
    else ⟨[], column, c :: cs⟩

/-- Passes line breaks and blanks, from the given column on, and finds the greatest column reached
by a blank. -/
def passAll (column deepest : Nat) : List Char → BlockLine × Nat
  | [] => (⟨[], column, []⟩, deepest)
  | c :: cs =>
    if isBreak c then
      let (l, deepest) := passAll 0 deepest cs
      ({ l with breaks := keptBreak c :: l.breaks }, deepest)
    else if c == ' ' then passAll (column + 1) (max deepest (column + 1)) cs
    else (⟨[], column, c :: cs⟩, deepest)

/-- Whether the line holds text at the given column. -/
def isText (l : BlockLine) (indent : Nat) : Bool := l.column == indent && !l.rest.isEmpty

end BlockLine

/-- Whether a line begins with a character that is not a blank. -/
def startsDark (cs : List Char) : Bool := !(cs.head?.map isBlank).getD false

/-- Reads the lines of a block scalar: its text up to the last line, the break of the last line, and
the breaks after it. Every step takes a character. -/
def readBlockLines (folded : Bool) (indent : Nat) :
    Nat → BlockLine → List Char × List Char × List Char × List Char
  | 0, l => ([], [], l.breaks, l.rest)
  | fuel + 1, l =>
    if !l.isText indent then ([], [], l.breaks, l.rest)
    else
      let line := l.rest.takeWhile fun c => !isBreak c
      let (ending, next) := match l.rest.dropWhile fun c => !isBreak c with
        | [] => ([], BlockLine.mk [] indent [])
        | c :: cs => ([keptBreak c], BlockLine.pass indent 0 cs)
      let head := l.breaks ++ line
      if next.isText indent then
        let joint :=
          if folded && ending == ['\n'] && startsDark l.rest && startsDark next.rest then
            if next.breaks.isEmpty then [' '] else []
          else ending
        let (text, rest) := readBlockLines folded indent fuel next
        (head ++ joint ++ text, rest)
      else (head, ending, next.breaks, next.rest)

/-- The breaks that are kept at the end of a block scalar. -/
def Chomping.kept (ending after : List Char) : Chomping → List Char
  | strip => []
  | clip => ending
  | keep => ending ++ after

/-- Reads a block scalar, after the character that opens it, inside a block whose indentation is
`indent - 1` columns. -/
def readBlock (folded : Bool) (indent : Nat) (cs : List Char) :
    Except Fault (String × List Char) := do
  let (header, cs) ← readBlockHeader cs
  let least := max indent 1
  let (indent, first) := match header.indentation with
    | some n => (least + n - 1, BlockLine.pass (least + n - 1) 0 cs)
    | none =>
      let (first, deepest) := BlockLine.passAll 0 0 cs
      (max least deepest, first)
  let (text, ending, after, rest) := readBlockLines folded indent (cs.length + 1) first
  return (String.ofList (text ++ header.chomping.kept ending after), rest)

end Yaml

end PlayTrace
