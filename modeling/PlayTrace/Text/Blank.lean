/-!
# Blank characters and words

Which characters separate words, and the two operations that depend on it: dropping blanks at both
ends of a text and splitting a text into its words.

The blank characters are those that Unicode classifies as white space, together with the four
information separators `U+001C` to `U+001F`. The zero-width space and the byte order mark are not
among them.

Texts are handled as character lists, because that is the form in which their lemmas are stated;
the versions on `String` go through it.
-/

namespace PlayTrace.Text

/-- A character that separates words. -/
def isBlank (c : Char) : Bool :=
  let n := c.toNat
  (9 ≤ n && n ≤ 13) || (28 ≤ n && n ≤ 32) || n == 0x85 || n == 0xA0 || n == 0x1680 ||
    (0x2000 ≤ n && n ≤ 0x200A) || n == 0x2028 || n == 0x2029 || n == 0x202F || n == 0x205F ||
    n == 0x3000

/-- The text without the characters of `p` at its two ends. -/
def trimChars (p : Char → Bool) (cs : List Char) : List Char :=
  ((cs.dropWhile p).reverse.dropWhile p).reverse

/-- The text without blanks at its two ends. -/
def strip (s : String) : String :=
  String.ofList (trimChars isBlank s.toList)

/-- Whether a text begins with a word. -/
def startsWord : List Char → Bool
  | [] => false
  | c :: _ => !isBlank c

/-- The maximal blank-free stretches of a text, from left to right. -/
def splitWords : List Char → List (List Char)
  | [] => []
  | c :: cs =>
    if isBlank c then splitWords cs
    else if startsWord cs then (splitWords cs).modifyHead (c :: ·)
    else [c] :: splitWords cs

/-- The words of a text, from left to right. -/
def words (s : String) : List String :=
  (splitWords s.toList).map String.ofList

/-- Whether a text is blank throughout; the empty text is. -/
def isBlankText (s : String) : Bool :=
  s.toList.all isBlank

@[simp] theorem splitWords_nil : splitWords [] = [] := rfl

theorem splitWords_cons_blank {c : Char} (cs : List Char) (h : isBlank c = true) :
    splitWords (c :: cs) = splitWords cs := by
  simp [splitWords, h]

end PlayTrace.Text
