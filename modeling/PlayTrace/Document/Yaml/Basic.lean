import PlayTrace.Text.Digit

/-!
# Places in a YAML text

What the characters of a YAML text are, and places in it. YAML tells the structure of a document by
the columns its lines begin in, so a `Cursor` keeps count of lines and columns while it moves.

## What is deliberately absent

Anchors, aliases, tags, directives and dates are not part of the documents read here: the first four
make a text malformed, and a date is a text like any other.
-/

namespace PlayTrace

namespace Yaml

/-- Why a text is not read as YAML. -/
inductive Fault where
  /-- the text is not YAML -/
  | malformed
  /-- an escape stands for a code point beyond the last one, and `left` characters follow it -/
  | codePoint (value left : Nat)
  /-- an integer has more digits than are accepted -/
  | integer (fault : Text.IntegerFault)
  /-- an integer has a base, but no digits -/
  | noDigits (base : Nat)
  /-- a figure of a floating-point number counts more than such a number can hold -/
  | tooLarge
  /-- lists and mappings lie in each other more deeply than is accepted -/
  | tooDeep
deriving DecidableEq

/-- How deeply lists and mappings may lie in each other. -/
def maxDepth : Nat := 488

/-! ### Characters -/

/-- A character that ends a line. -/
def isBreak (c : Char) : Bool :=
  c == '\n' || c == '\x85' || c == '\u2028' || c == '\u2029'

/-- What a character that ends a line stands for inside a scalar. -/
def keptBreak (c : Char) : Char := if c == '\x85' then '\n' else c

/-- A blank inside a line. -/
def isBlank (c : Char) : Bool := c == ' ' || c == '\t'

/-- A blank or a character that ends a line. -/
def isGap (c : Char) : Bool := isBlank c || isBreak c

/-- Whether a text begins with a blank, with the end of its line, or not at all. -/
def atGap : List Char → Bool
  | [] => true
  | c :: _ => isGap c

/-- Whether a text begins with the end of its line, or not at all. -/
def atLineEnd : List Char → Bool
  | [] => true
  | c :: _ => isBreak c

/-- Whether a line begins with a mark between documents. -/
def isSeparator (mark : Char) (line : List Char) : Bool :=
  match line with
  | a :: b :: c :: rest => a == mark && b == mark && c == mark && atGap rest
  | _ => false

/-- Whether a line begins with the mark that opens or the mark that closes a document. -/
def atSeparator (line : List Char) : Bool := isSeparator '-' line || isSeparator '.' line

/-- A character that may occur in a YAML text. -/
def isAllowed (c : Char) : Bool :=
  let n := c.toNat
  n == 9 || n == 10 || n == 13 || (0x20 ≤ n && n ≤ 0x7E) || n == 0x85 ||
    (0xA0 ≤ n && n ≤ 0xFFFD) || 0x10000 ≤ n

/-! ### Places -/

/-- A place in a text: the characters to come, and how many of them, of lines, and of columns of
the line lie behind. -/
structure Cursor where
  rest : List Char
  index : Nat
  line : Nat
  column : Nat

namespace Cursor

/-- The place before the first character. -/
def start (cs : List Char) : Cursor := ⟨cs, 0, 0, 0⟩

/-- The place after the next character. A byte order mark takes up no column. -/
def next (p : Cursor) : Cursor :=
  match p.rest with
  | [] => p
  | c :: rest =>
    if isBreak c then ⟨rest, p.index + 1, p.line + 1, 0⟩
    else if c == '\ufeff' then ⟨rest, p.index + 1, p.line, p.column⟩
    else ⟨rest, p.index + 1, p.line, p.column + 1⟩

/-- The place after the next `n` characters. -/
def move : Nat → Cursor → Cursor
  | 0, p => p
  | n + 1, p => move n p.next

/-- The place where the given characters are still to come. -/
def upTo (p : Cursor) (rest : List Char) : Cursor := move (p.rest.length - rest.length) p

/-- The number of characters between two tokens: blanks, ends of lines and comments. -/
def gapLength (inComment : Bool) : List Char → Nat
  | [] => 0
  | c :: cs =>
    if isBreak c then gapLength false cs + 1
    else if inComment || c == ' ' then gapLength inComment cs + 1
    else if c == '#' then gapLength true cs + 1
    else 0

end Cursor

end Yaml

end PlayTrace
