/-!
# Lines of a text

Splitting a text at its line breaks. A carriage return followed by a line feed counts as one break,
and a break at the very end does not open another line.

`unifyBreaks` is what reading a text file does to it: both conventions of ending a line are turned
into the line feed.
-/

namespace PlayTrace.Text

/-- A character that ends a line. -/
def isLineBreak (c : Char) : Bool :=
  let n := c.toNat
  (10 ≤ n && n ≤ 13) || (28 ≤ n && n ≤ 30) || n == 0x85 || n == 0x2028 || n == 0x2029

/-- The lines of a text, without their breaks. -/
def splitLines : List Char → List (List Char)
  | [] => []
  | '\r' :: '\n' :: cs => [] :: splitLines cs
  | c :: cs =>
    if isLineBreak c then [] :: splitLines cs
    else
      match splitLines cs with
      | [] => [[c]]
      | l :: ls => (c :: l) :: ls

/-- The lines of a text, without their breaks. -/
def lines (s : String) : List String :=
  (splitLines s.toList).map String.ofList

/-- The text with every carriage return, alone or before a line feed, made one line feed. -/
def unifyBreakChars : List Char → List Char
  | [] => []
  | '\r' :: '\n' :: cs => '\n' :: unifyBreakChars cs
  | c :: cs => (if c = '\r' then '\n' else c) :: unifyBreakChars cs

/-- The text as a reader of text files sees it. -/
def unifyBreaks (s : String) : String :=
  String.ofList (unifyBreakChars s.toList)

@[simp] theorem splitLines_nil : splitLines [] = [] := rfl

end PlayTrace.Text
