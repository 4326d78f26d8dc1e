import PlayTrace.Document.Yaml.Folding

/-!
# Plain scalars

Scalars without quotation marks. Such a scalar ends before a comment, before a colon that a gap
follows, and before a line that is not indented deeply enough; inside brackets it also ends before a
character that structures the brackets.
-/

namespace PlayTrace

namespace Yaml

/-- A character that structures lists and mappings in brackets. -/
def isFlowMark (c : Char) : Bool := [',', '[', ']', '\x7b', '\x7d'].contains c

/-- A character that no plain scalar begins with, unless another character makes up for it. -/
def isIndicator (c : Char) : Bool :=
  "-?:,[]\x7b\x7d#&*!|>'\"%@".toList.contains c || c.toNat == 96

/-- Whether a plain scalar begins here. A hyphen begins one when no gap follows; outside brackets, so
do a question mark and a colon. -/
def startsPlain (inFlow : Bool) : List Char → Bool
  | [] => false
  | c :: cs =>
    !(isGap c || isIndicator c) ||
      (!atGap cs && (c == '-' || (!inFlow && (c == '?' || c == ':'))))

/-- Whether a plain scalar ends before the character `c`. -/
def endsPlain (inFlow : Bool) (c : Char) (cs : List Char) : Bool :=
  isGap c ||
    (c == ':' && (atGap cs || (inFlow && (cs.head?.map isFlowMark).getD false))) ||
    (inFlow && (isFlowMark c || c == '?'))

/-- The part of a plain scalar up to the next gap, and the rest. -/
def spanPlain (inFlow : Bool) : List Char → List Char × List Char
  | [] => ([], [])
  | c :: cs =>
    if endsPlain inFlow c cs then ([], c :: cs)
    else
      let (part, rest) := spanPlain inFlow cs
      (c :: part, rest)

/-- What is read of a plain scalar. -/
structure Plain where
  text : List Char
  /-- the place after the scalar and the blanks that follow it -/
  after : Cursor
  /-- whether a line begins there -/
  fresh : Bool

/-- The blanks after a part of a plain scalar: what they stand for, the place after them, and whether
they hold the end of a line. Nothing is stood for when the scalar cannot go on. -/
def passPlainBlanks (p : Cursor) : List Char × Cursor × Bool :=
  let blanks := p.rest.takeWhile (· == ' ')
  match p.rest.dropWhile (· == ' ') with
  | [] => (blanks, p.upTo [], false)
  | c :: rest =>
    if isBreak c then
      let f := Fold.pass false true rest
      (if f.atSeparator then [] else f.text c, p.upTo f.rest, true)
    else (blanks, p.upTo (c :: rest), false)

/-- Reads a plain scalar whose lines are indented by at least `indent` columns. Every step takes a
character. -/
def readPlain (inFlow : Bool) (indent : Nat) : Nat → Cursor → Plain
  | 0, p => ⟨[], p, false⟩
  | fuel + 1, p =>
    if p.rest.head? == some '#' then ⟨[], p, false⟩
    else
      match spanPlain inFlow p.rest with
      | ([], _) => ⟨[], p, false⟩
      | (part, rest) =>
        let (blanks, after, fresh) := passPlainBlanks (p.upTo rest)
        if blanks.isEmpty || after.rest.head? == some '#' || (!inFlow && after.column < indent) then
          ⟨part, after, fresh⟩
        else
          let more := readPlain inFlow indent fuel after
          if more.text.isEmpty then ⟨part, after, fresh⟩
          else ⟨part ++ blanks ++ more.text, more.after, more.fresh⟩

end Yaml

end PlayTrace
