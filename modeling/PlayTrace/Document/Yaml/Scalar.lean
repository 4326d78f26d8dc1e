import PlayTrace.Document.Value
import PlayTrace.Document.Yaml.Basic
import PlayTrace.Number.Decimal

/-!
# The values of plain scalars

A plain scalar stands for the null value, a truth value, an integer or a floating-point number if it
is written like one, and for its text otherwise. Integers may be written in base two, eight or
sixteen and, like floating-point numbers, as several figures of which each counts sixty times the
next; underscores between digits do not count.
-/

namespace PlayTrace

namespace Yaml

/-- The words for a truth value, in small letters. -/
def truthWords : List (String × Bool) :=
  [("yes", true), ("no", false), ("true", true), ("false", false), ("on", true), ("off", false)]

/-- The word with a capital in front. -/
def capitalised (word : String) : String :=
  match word.toList with
  | [] => word
  | c :: cs => String.ofList (c.toUpper :: cs)

/-- Whether a text is the word, in small letters, in capitals, or with a capital in front. -/
def spells (word text : String) : Bool :=
  text == word || text == capitalised word || text == word.toUpper

/-- The truth value that a text spells. -/
def truth? (text : String) : Option Bool :=
  (truthWords.find? fun e => spells e.1 text).map Prod.snd

/-- Whether a text spells the null value. -/
def isNull (text : String) : Bool := text.isEmpty || text == "~" || spells "null" text

/-! ### Digits -/

/-- A decimal digit. -/
def isDigit (c : Char) : Bool := '0' ≤ c && c ≤ '9'

/-- A character that may stand in a number of the given base after its first digit. -/
def isDigitOf (base : Nat) (c : Char) : Bool :=
  c == '_' ||
    match base with
    | 2 => c == '0' || c == '1'
    | 8 => '0' ≤ c && c ≤ '7'
    | 10 => isDigit c
    | _ => isDigit c || ('a' ≤ c && c ≤ 'f') || ('A' ≤ c && c ≤ 'F')

/-- The value of a digit. -/
def digitValue (c : Char) : Nat :=
  if isDigit c then c.toNat - 48 else if c ≤ 'F' then c.toNat - 55 else c.toNat - 87

/-- The digits of a number, without underscores. -/
def digitsOf (cs : List Char) : List Nat := (cs.filter (· ≠ '_')).map digitValue

/-- The number that digits write in a base. -/
def numberOf (base : Nat) (cs : List Char) : Nat := (digitsOf cs).foldl (base * · + ·) 0

/-- Whether a text is not empty and consists of digits of a base. -/
def areDigits (base : Nat) (cs : List Char) : Bool := !cs.isEmpty && cs.all (isDigitOf base)

/-- Whether a text consists of decimal digits, of which the first is one of those allowed. -/
def isFigure (first : Char → Bool) (cs : List Char) : Bool :=
  (cs.head?.map first).getD false && cs.all (isDigitOf 10)

/-- Whether a text is one of the figures from 0 to 59, with or without a leading zero. -/
def isSixtieth : List Char → Bool
  | [a] => isDigit a
  | [a, b] => '0' ≤ a && a ≤ '5' && isDigit b
  | _ => false

/-- The pieces of a text between its colons. -/
def splitColons : List Char → List (List Char)
  | [] => [[]]
  | c :: cs =>
    if c == ':' then [] :: splitColons cs
    else (splitColons cs).modifyHead (c :: ·)

/-! ### Integers -/

/-- The value of decimal digits, of which only so many are accepted. -/
def decimal (cs : List Char) : Except Fault Nat :=
  let digits := digitsOf cs
  if Text.maxDigits < digits.length then .error (.integer (.tooLong digits.length))
  else .ok (Text.ofDigits digits)

/-- The value of figures of which each counts sixty times the next. -/
def sixties (figures : List Nat) : Nat := figures.foldl (60 * · + ·) 0

/-- Reads an integer without its sign, if the text is one. -/
def magnitude? (cs : List Char) : Option (Except Fault Nat) :=
  match cs with
  | ['0'] => some (.ok 0)
  | '0' :: 'b' :: ds =>
    if areDigits 2 ds then
      some (if (digitsOf ds).isEmpty then .error (.noDigits 2) else .ok (numberOf 2 ds))
    else none
  | '0' :: 'x' :: ds =>
    if areDigits 16 ds then
      some (if (digitsOf ds).isEmpty then .error (.noDigits 16) else .ok (numberOf 16 ds))
    else none
  | '0' :: ds => if areDigits 8 ds then some (.ok (numberOf 8 ds)) else none
  | _ =>
    match splitColons cs with
    | [] => none
    | first :: later =>
      if isFigure (fun c => isDigit c && c ≠ '0') first && later.all isSixtieth then
        some do return sixties (← (first :: later).mapM decimal)
      else none

/-- Reads an integer, if the text is one. -/
def integer? (cs : List Char) : Option (Except Fault Int) :=
  let (negative, ds) := Text.splitSign cs
  (magnitude? ds).map fun r => r.map fun n => if negative then -(n : Int) else n

/-! ### Floating-point numbers -/

/-- Reads the exponent of a number, which must have a sign, up to the end of the text. -/
def exponent? : List Char → Option Int
  | [] => some 0
  | e :: sign :: ds =>
    if (e == 'e' || e == 'E') && (sign == '+' || sign == '-') && !ds.isEmpty && ds.all isDigit then
      some (if sign == '-' then -(numberOf 10 ds : Int) else numberOf 10 ds)
    else none
  | _ => none

/-- The number written by the digits before the point, those after it, and an exponent. -/
def pointed (negative : Bool) (whole fraction : List Char) (exponent : Int) : Number :=
  .ofDecimal negative (numberOf 10 (whole ++ fraction))
    (exponent - (digitsOf fraction).length)

/-- Reads a decimal fraction, if the text is one. Digits may be missing on one side of the point;
without digits before it, there must not be a sign. -/
def fraction? (negative signed : Bool) (cs : List Char) : Option Number :=
  let whole := cs.takeWhile (isDigitOf 10)
  match cs.dropWhile (isDigitOf 10) with
  | '.' :: rest =>
    let fraction := rest.takeWhile (isDigitOf 10)
    if isFigure isDigit whole || (whole.isEmpty && !signed && isFigure isDigit fraction) then
      (exponent? (rest.dropWhile (isDigitOf 10))).map (pointed negative whole fraction)
    else none
  | _ => none

/-- The product of a number and an integer, rounded. An integer that is too large for a number has no
product. -/
def product (a : Number) (n : Nat) : Except Fault Number :=
  match a, Number.roundBinary64 n with
  | _, .infinite _ => .error .tooLarge
  | .finite q, .finite r => .ok (Number.roundBinary64 (q * r))
  | a, _ => .ok a

/-- The value of figures, the last first, of which each counts sixty times the one before it. -/
def sixtiesFrom (unit : Nat) (sum : Number) : List Number → Except Fault Number
  | [] => .ok sum
  | x :: xs => do sixtiesFrom (60 * unit) (Precision.binary64.add sum (← product x unit)) xs

/-- Reads a number whose figures are separated by colons and of which the last has a point. -/
def sixtiesFraction? (negative : Bool) (cs : List Char) : Option (Except Fault Number) :=
  match splitColons cs with
  | first :: second :: later =>
    let figures := second :: later
    let last := figures.getLast?.getD []
    let whole := last.takeWhile (· ≠ '.')
    match last.dropWhile (· ≠ '.') with
    | '.' :: fraction =>
      if isFigure isDigit first && (figures.dropLast ++ [whole]).all isSixtieth &&
          fraction.all (isDigitOf 10) then
        let leading := (first :: figures.dropLast).map fun f => pointed false f [] 0
        some do
          match ← sixtiesFrom 1 0 (pointed false whole fraction 0 :: leading.reverse) with
          | .finite q => return if negative then if q = 0 then .negZero else .finite (-q) else .finite q
          | _ => return .infinite negative
      else none
    | _ => none
  | _ => none

/-- Reads a floating-point number, if the text is one. -/
def float? (cs : List Char) : Option (Except Fault Number) :=
  let (negative, rest) := Text.splitSign cs
  let signed := rest.length ≠ cs.length
  let word := String.ofList rest
  if word == ".inf" || word == ".Inf" || word == ".INF" then some (.ok (.infinite negative))
  else if !signed && (word == ".nan" || word == ".NaN" || word == ".NAN") then some (.ok .undefined)
  else (fraction? negative signed rest).map .ok <|> sixtiesFraction? negative rest

/-! ### Values -/

/-- The value of a plain scalar. -/
def plainValue (text : String) : Except Fault Value :=
  if isNull text then .ok .null
  else
    match truth? text, float? text.toList, integer? text.toList with
    | some b, _, _ => .ok (.bool b)
    | _, some x, _ => x.map Value.float
    | _, _, some n => n.map Value.int
    | none, none, none => if text == "=" || text == "<<" then .error .malformed else .ok (.text text)

end Yaml

end PlayTrace
