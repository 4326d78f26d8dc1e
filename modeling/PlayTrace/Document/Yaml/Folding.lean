import PlayTrace.Document.Yaml.Basic

/-!
# Folded lines

A scalar without indentation of its own may go over several lines. A single line break in it stands
for a blank; of several, the first is dropped; and blanks around the breaks do not count.
-/

namespace PlayTrace

namespace Yaml

/-- What lies between two lines of a scalar. -/
structure Fold where
  /-- the line breaks passed -/
  breaks : List Char
  /-- the text after them -/
  rest : List Char
  /-- whether the text after them begins with a mark between documents -/
  atSeparator : Bool

namespace Fold

/-- Passes blanks and line breaks. `fresh` tells whether a line begins here, and `tabs` whether a
tabulator counts as a blank. -/
def pass (tabs : Bool) (fresh : Bool) : List Char → Fold
  | [] => ⟨[], [], false⟩
  | c :: cs =>
    if fresh && Yaml.atSeparator (c :: cs) then ⟨[], c :: cs, true⟩
    else if isBreak c then
      let f := pass tabs true cs
      { f with breaks := keptBreak c :: f.breaks }
    else if c == ' ' || (tabs && c == '\t') then pass tabs false cs
    else ⟨[], c :: cs, false⟩

/-- What the line break `first` and those after it stand for. -/
def text (first : Char) (f : Fold) : List Char :=
  (if keptBreak first ≠ '\n' then [first] else if f.breaks.isEmpty then [' '] else []) ++ f.breaks

end Fold

end Yaml

end PlayTrace
