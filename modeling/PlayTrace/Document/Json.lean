import PlayTrace.Document.Value
import PlayTrace.Number.Decimal
import PlayTrace.Text.Digit

/-!
# JSON documents

Reading JSON text into a document value, and writing a value as indented JSON text.

The reader accepts, besides what JSON demands, the words `NaN`, `Infinity` and `-Infinity` as
numbers. A number without fraction and exponent is an integer. When an object repeats a key, the
last value counts and stands where the first stood.

The writer puts every item of a non-empty list or object on a line of its own and leaves characters
outside ASCII as they are.
-/

namespace PlayTrace

namespace Json

/-- Why a text is not read as JSON. -/
inductive Fault where
  /-- the text is not JSON -/
  | malformed
  /-- an integer has more digits than are accepted -/
  | integer (fault : Text.IntegerFault)
  /-- lists and objects lie in each other more deeply than is accepted -/
  | tooDeep
deriving DecidableEq

/-- How deeply lists and objects may lie in each other. -/
def maxDepth : Nat := 988

/-! ### Reading -/

/-- The text without the blanks in front. -/
def skipBlanks : List Char → List Char :=
  List.dropWhile fun c => c == ' ' || c == '\t' || c == '\n' || c == '\r'

/-- The value of a digit in base sixteen. -/
def hexValue? (c : Char) : Option Nat :=
  if '0' ≤ c && c ≤ '9' then some (c.toNat - 48)
  else if 'a' ≤ c && c ≤ 'f' then some (c.toNat - 87)
  else if 'A' ≤ c && c ≤ 'F' then some (c.toNat - 55)
  else none

/-- Reads four digits in base sixteen. -/
def readHex4 : List Char → Option (Nat × List Char)
  | a :: b :: c :: d :: cs => do
    let a ← hexValue? a
    let b ← hexValue? b
    let c ← hexValue? c
    let d ← hexValue? d
    return (((a * 16 + b) * 16 + c) * 16 + d, cs)
  | _ => none

/-- Reads a character written by its code point, after the `u`. A code point above `U+FFFF` is
written as two surrogates. -/
def readCodePoint (cs : List Char) : Option (Char × List Char) := do
  let (high, rest) ← readHex4 cs
  let pair : Option (Char × List Char) := do
    guard (0xD800 ≤ high && high < 0xDC00)
    match rest with
    | '\\' :: 'u' :: rest =>
      let (low, rest) ← readHex4 rest
      guard (0xDC00 ≤ low && low < 0xE000)
      return (Char.ofNat (0x10000 + (high - 0xD800) * 0x400 + (low - 0xDC00)), rest)
    | _ => none
  match pair with
  | some p => return p
  | none =>
    return (if 0xD800 ≤ high && high < 0xE000 then Char.ofNat 0xFFFD else Char.ofNat high, rest)

/-- The character that a letter after a backslash stands for. -/
def escaped? : Char → Option Char
  | '"' => some '"'
  | '\\' => some '\\'
  | '/' => some '/'
  | 'b' => some '\x08'
  | 'f' => some '\x0c'
  | 'n' => some '\n'
  | 'r' => some '\r'
  | 't' => some '\t'
  | _ => none

/-- Reads the rest of a string after its opening quotation mark; `acc` holds the characters read so
far, the last one first. -/
def readString : Nat → List Char → List Char → Option (String × List Char)
  | 0, _, _ => none
  | _, _, [] => none
  | _ + 1, acc, '"' :: cs => some (String.ofList acc.reverse, cs)
  | fuel + 1, acc, '\\' :: 'u' :: cs => do
    let (c, cs) ← readCodePoint cs
    readString fuel (c :: acc) cs
  | fuel + 1, acc, '\\' :: c :: cs => do
    let c ← escaped? c
    readString fuel (c :: acc) cs
  | fuel + 1, acc, c :: cs => if c.toNat < 32 then none else readString fuel (c :: acc) cs

/-- The ASCII digits in front, and the rest. -/
def spanDigits (cs : List Char) : List Char × List Char :=
  cs.span fun c => '0' ≤ c && c ≤ '9'

/-- The number that ASCII digits write. -/
def digitsValue (cs : List Char) : Nat := Text.ofDigits (cs.map fun c => c.toNat - 48)

/-- Reads the fraction of a number, if there is one: its digits. -/
def readFraction (cs : List Char) : List Char × List Char :=
  match cs with
  | '.' :: rest =>
    match spanDigits rest with
    | ([], _) => ([], cs)
    | (ds, rest) => (ds, rest)
  | _ => ([], cs)

/-- Reads the exponent of a number, if there is one. -/
def readExponent (cs : List Char) : Option Int × List Char :=
  match cs with
  | e :: rest =>
    if e == 'e' || e == 'E' then
      let (negative, rest) := Text.splitSign rest
      match spanDigits rest with
      | ([], _) => (none, cs)
      | (ds, rest) => (some (if negative then -(digitsValue ds : Int) else digitsValue ds), rest)
    else (none, cs)
  | [] => (none, cs)

/-- Reads the digits of a number, after its sign. -/
def readMagnitude (negative : Bool) (cs : List Char) : Except Fault (Value × List Char) :=
  let (whole, rest) := match cs with
    | '0' :: rest => (['0'], rest)
    | _ => spanDigits cs
  if whole.isEmpty then .error .malformed
  else
    let (fraction, rest) := readFraction rest
    let (exponent, rest) := readExponent rest
    if fraction.isEmpty && exponent.isNone then
      if Text.maxDigits < whole.length then .error (.integer (.tooLong whole.length))
      else
        let n : Int := digitsValue whole
        .ok (.int (if negative then -n else n), rest)
    else
      .ok (.float (.ofDecimal negative (digitsValue (whole ++ fraction))
        (exponent.getD 0 - fraction.length)), rest)

/-- The rest of a text after a word that it begins with. -/
def afterWord? (word : String) (cs : List Char) : Option (List Char) :=
  if word.toList.isPrefixOf cs then some (cs.drop word.length) else none

/-- Reads a number or one of the words. -/
def readAtom (cs : List Char) : Except Fault (Value × List Char) :=
  let wordValues : List (String × Value) :=
    [("null", .null), ("true", .bool true), ("false", .bool false), ("NaN", .float .undefined),
      ("Infinity", .float (.infinite false)), ("-Infinity", .float (.infinite true))]
  match wordValues.findSome? fun (w, v) => (afterWord? w cs).map fun rest => (v, rest) with
  | some answer => .ok answer
  | none =>
    match cs with
    | '-' :: cs => readMagnitude true cs
    | _ => readMagnitude false cs

/-- The number of lists and objects that may lie in each other inside of one more. -/
def enter : Nat → Except Fault Nat
  | 0 => .error .tooDeep
  | room + 1 => .ok room

mutual

/-- Reads a value, in which `room` lists and objects may lie in each other. -/
def readValue (room : Nat) : Nat → List Char → Except Fault (Value × List Char)
  | 0, _ => .error .malformed
  | fuel + 1, cs =>
    match cs with
    | '"' :: cs =>
      match readString (fuel + 1) [] cs with
      | some (s, cs) => .ok (.text s, cs)
      | none => .error .malformed
    | '[' :: cs => do
      let room ← enter room
      match skipBlanks cs with
      | ']' :: cs => return (.list [], cs)
      | cs =>
        let (items, cs) ← readItems room fuel cs
        return (.list items, cs)
    | '\x7b' :: cs => do
      let room ← enter room
      match skipBlanks cs with
      | '\x7d' :: cs => return (.mapping [], cs)
      | cs =>
        let (entries, cs) ← readMembers room fuel [] cs
        return (.mapping entries, cs)
    | _ => readAtom cs
termination_by structural fuel => fuel

/-- Reads the items of a list, up to its closing bracket. -/
def readItems (room : Nat) : Nat → List Char → Except Fault (List Value × List Char)
  | 0, _ => .error .malformed
  | fuel + 1, cs => do
    let (item, cs) ← readValue room fuel cs
    match skipBlanks cs with
    | ']' :: cs => return ([item], cs)
    | ',' :: cs =>
      let (items, cs) ← readItems room fuel (skipBlanks cs)
      return (item :: items, cs)
    | _ => throw .malformed
termination_by structural fuel => fuel

/-- Reads the members of an object, up to its closing brace, onto those read before. -/
def readMembers (room : Nat) : Nat → List (Value × Value) → List Char →
    Except Fault (List (Value × Value) × List Char)
  | 0, _, _ => .error .malformed
  | fuel + 1, before, cs =>
    match cs with
    | '"' :: cs =>
      match readString (fuel + 1) [] cs with
      | none => .error .malformed
      | some (key, cs) =>
        match skipBlanks cs with
        | ':' :: cs => do
          let (value, cs) ← readValue room fuel (skipBlanks cs)
          let entries := Value.setEntry (.text key) value before
          match skipBlanks cs with
          | '\x7d' :: cs => return (entries, cs)
          | ',' :: cs => readMembers room fuel entries (skipBlanks cs)
          | _ => throw .malformed
        | _ => .error .malformed
    | _ => .error .malformed
termination_by structural fuel => fuel

end

/-- Reads a JSON text. Every step of the reader takes a character or opens a value, so twice as many
steps as there are characters suffice. -/
def read (s : String) : Except Fault Value := do
  let cs := s.toList
  let (value, rest) ← readValue maxDepth (2 * cs.length + 2) (skipBlanks cs)
  if (skipBlanks rest).isEmpty then return value else throw .malformed

/-! ### Writing -/

/-- A character inside a JSON string. -/
def writtenChar (c : Char) : List Char :=
  if c = '"' then ['\\', '"']
  else if c = '\\' then ['\\', '\\']
  else if c = '\n' then ['\\', 'n']
  else if c = '\r' then ['\\', 'r']
  else if c = '\t' then ['\\', 't']
  else if c = '\x08' then ['\\', 'b']
  else if c = '\x0c' then ['\\', 'f']
  else if c.toNat < 32 then '\\' :: 'u' :: Text.hexDigits 4 c.toNat
  else [c]

/-- A text as a JSON string. -/
def writeString (s : String) : String :=
  String.ofList ('"' :: s.toList.flatMap writtenChar ++ ['"'])

/-- A number as JSON text. -/
def writeNumber : Number → String
  | .undefined => "NaN"
  | .infinite false => "Infinity"
  | .infinite true => "-Infinity"
  | x => x.text

/-- A line break followed by the indentation of a depth. -/
def newLine (depth : Nat) : String := "\n" ++ String.ofList (List.replicate (2 * depth) ' ')

mutual

/-- A value as JSON text that stands at a depth of indentation. -/
def writeAt (depth : Nat) : Value → String
  | .null => "null"
  | .bool true => "true"
  | .bool false => "false"
  | .int n => toString n
  | .float x => writeNumber x
  | .text s => writeString s
  | .list [] => "[]"
  | .mapping [] => "\x7b\x7d"
  | .list (v :: vs) =>
    "[" ++ newLine (depth + 1) ++
      ("," ++ newLine (depth + 1)).intercalate (writeItems (depth + 1) (v :: vs)) ++
      newLine depth ++ "]"
  | .mapping (e :: es) =>
    "\x7b" ++ newLine (depth + 1) ++
      ("," ++ newLine (depth + 1)).intercalate (writeMembers (depth + 1) (e :: es)) ++
      newLine depth ++ "\x7d"

/-- The items of a list as JSON texts. -/
def writeItems (depth : Nat) : List Value → List String
  | [] => []
  | v :: vs => writeAt depth v :: writeItems depth vs

/-- The members of an object as JSON texts. -/
def writeMembers (depth : Nat) : List (Value × Value) → List String
  | [] => []
  | (k, v) :: es => (writeString k.plain ++ ": " ++ writeAt depth v) :: writeMembers depth es

end

/-- A value as indented JSON text. -/
def write (v : Value) : String := writeAt 0 v

end Json

end PlayTrace
