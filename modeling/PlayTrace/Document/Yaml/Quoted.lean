import PlayTrace.Document.Yaml.Folding

/-!
# Quoted scalars

Scalars in single and in double quotation marks. Inside single ones, only the mark itself is special
and is written twice; inside double ones, a backslash opens an escape.
-/

namespace PlayTrace

namespace Yaml

/-- The value of a digit in base sixteen. -/
def hexDigit? (c : Char) : Option Nat :=
  if '0' ≤ c && c ≤ '9' then some (c.toNat - 48)
  else if 'a' ≤ c && c ≤ 'f' then some (c.toNat - 87)
  else if 'A' ≤ c && c ≤ 'F' then some (c.toNat - 55)
  else none

/-- Reads `width` digits in base sixteen, onto the value read before. -/
def readHex : Nat → Nat → List Char → Option (Nat × List Char)
  | 0, n, cs => some (n, cs)
  | _ + 1, _, [] => none
  | width + 1, n, c :: cs => do
    let d ← hexDigit? c
    readHex width (16 * n + d) cs

/-- The character that a letter after a backslash stands for. -/
def escape? : Char → Option Char
  | '0' => some '\x00'
  | 'a' => some '\x07'
  | 'b' => some '\x08'
  | 't' => some '\t'
  | '\t' => some '\t'
  | 'n' => some '\n'
  | 'v' => some '\x0b'
  | 'f' => some '\x0c'
  | 'r' => some '\r'
  | 'e' => some '\x1b'
  | ' ' => some ' '
  | '"' => some '"'
  | '\\' => some '\\'
  | '/' => some '/'
  | 'N' => some '\x85'
  | '_' => some '\xa0'
  | 'L' => some '\u2028'
  | 'P' => some '\u2029'
  | _ => none

/-- The number of digits of a code point after the letter of its escape. -/
def codePointWidth? : Char → Option Nat
  | 'x' => some 2
  | 'u' => some 4
  | 'U' => some 8
  | _ => none

/-- The character of a code point that is written before `rest`; a surrogate has none and is
replaced. -/
def ofCodePoint (n : Nat) (rest : List Char) : Except Fault Char :=
  if 0x10FFFF < n then .error (.codePoint n rest.length)
  else if 0xD800 ≤ n && n < 0xE000 then .ok '\ufffd'
  else .ok (Char.ofNat n)

/-- Reads an escape, after its backslash. -/
def readEscape (cs : List Char) : Except Fault (List Char × List Char) :=
  match cs with
  | [] => .error .malformed
  | c :: rest =>
    match escape? c, codePointWidth? c with
    | some e, _ => .ok ([e], rest)
    | none, some width =>
      match readHex width 0 rest with
      | none => .error .malformed
      | some (n, rest) => do return ([← ofCodePoint n rest], rest)
    | none, none =>
      if isBreak c then
        let f := Fold.pass true true rest
        if f.atSeparator then .error .malformed else .ok (f.breaks, f.rest)
      else .error .malformed

/-- Reads blanks inside quotation marks, and the line break they may lead to. -/
def readBlanks (cs : List Char) : Except Fault (List Char × List Char) :=
  let blanks := cs.takeWhile isBlank
  match cs.dropWhile isBlank with
  | [] => .error .malformed
  | c :: rest =>
    if isBreak c then
      let f := Fold.pass true true rest
      if f.atSeparator then .error .malformed else .ok (f.text c, f.rest)
    else .ok (blanks, c :: rest)

/-- Reads the rest of a scalar in single quotation marks. Every step takes a character. -/
def readSingleQuoted : Nat → List Char → Except Fault (List Char × List Char)
  | 0, _ | _, [] => .error .malformed
  | fuel + 1, c :: cs =>
    if c == '\'' then
      match cs with
      | '\'' :: cs => do
        let (text, rest) ← readSingleQuoted fuel cs
        return ('\'' :: text, rest)
      | _ => .ok ([], cs)
    else if isGap c then do
      let (blanks, rest) ← readBlanks (c :: cs)
      let (text, rest) ← readSingleQuoted fuel rest
      return (blanks ++ text, rest)
    else do
      let (text, rest) ← readSingleQuoted fuel cs
      return (c :: text, rest)

/-- Reads the rest of a scalar in double quotation marks. Every step takes a character. -/
def readDoubleQuoted : Nat → List Char → Except Fault (List Char × List Char)
  | 0, _ | _, [] => .error .malformed
  | fuel + 1, c :: cs =>
    if c == '"' then .ok ([], cs)
    else if c == '\\' then do
      let (chars, rest) ← readEscape cs
      let (text, rest) ← readDoubleQuoted fuel rest
      return (chars ++ text, rest)
    else if isGap c then do
      let (blanks, rest) ← readBlanks (c :: cs)
      let (text, rest) ← readDoubleQuoted fuel rest
      return (blanks ++ text, rest)
    else do
      let (text, rest) ← readDoubleQuoted fuel cs
      return (c :: text, rest)

/-- Reads a scalar in quotation marks, after the opening one. -/
def readQuoted (mark : Char) (cs : List Char) : Except Fault (String × List Char) := do
  let read := if mark == '"' then readDoubleQuoted else readSingleQuoted
  let (text, rest) ← read (cs.length + 1) cs
  return (String.ofList text, rest)

end Yaml

end PlayTrace
