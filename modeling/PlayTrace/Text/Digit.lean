import PlayTrace.Text.Blank
import PlayTrace.Text.Quoted

/-!
# Decimal digits

The decimal digits of all scripts, and integers written with them.

An integer is written with an optional sign and at least one digit, with single underscores allowed
between digits and blanks around the whole. The four information separators, which count as blank
elsewhere, do not count as blank here. An integer of too many digits is refused for its length even
if something that does not belong to it follows.
-/

namespace PlayTrace.Text

/-- The code points of the zeros of all scripts; the nine other digits of a script follow its
zero. -/
def zeroDigits : List Nat :=
  [48, 1632, 1776, 1984, 2406, 2534, 2662, 2790, 2918, 3046, 3174, 3302, 3430, 3558, 3664, 3792,
   3872, 4160, 4240, 6112, 6160, 6470, 6608, 6784, 6800, 6992, 7088, 7232, 7248, 42528, 43216,
   43264, 43472, 43504, 43600, 44016, 65296, 66720, 68912, 69734, 69872, 69942, 70096, 70384,
   70736, 70864, 71248, 71360, 71472, 71904, 72016, 72784, 73040, 73120, 92768, 92864, 93008,
   120782, 120792, 120802, 120812, 120822, 123200, 123632, 125264, 130032]

/-- The value of a decimal digit of any script. -/
def digitValue? (c : Char) : Option Nat :=
  let n := c.toNat
  if n < 128 then if 48 ≤ n && n ≤ 57 then some (n - 48) else none
  else (zeroDigits.find? fun z => z ≤ n && n ≤ z + 9).map (n - ·)

/-- The digits of a number in which single underscores may stand between two digits. -/
def readDigits : List Char → Option (List Nat)
  | [] => none
  | [c] => (digitValue? c).map ([·])
  | c :: '_' :: cs => do
    let d ← digitValue? c
    let ds ← readDigits cs
    return d :: ds
  | c :: cs => do
    let d ← digitValue? c
    let ds ← readDigits cs
    return d :: ds

/-- The number whose decimal digits are given, the most significant first. -/
def ofDigits (ds : List Nat) : Nat :=
  ds.foldl (fun n d => 10 * n + d) 0

/-- The greatest number of digits an integer may be written with. -/
def maxDigits : Nat := 4300

/-- The least natural number with more than `k` digits. -/
def leastBeyond (k : Nat) : Nat := Nat.pow 10 k

/-- The least natural number with too many digits. -/
def writableBound : Nat := leastBeyond maxDigits

theorem writableBound_pos : 0 < writableBound := by decide +kernel

/-- Whether an integer has no more digits than it may be written with. -/
def isWritable (n : Int) : Bool := n.natAbs < writableBound

theorem not_isWritable_of_le {n : Int} (h : (writableBound : Int) ≤ n) : isWritable n = false := by
  rw [isWritable, decide_eq_false_iff_not]
  omega

/-- What lies between zero and an integer that can be written can be written. -/
theorem isWritable_of_lt {n m : Int} (hn : 0 ≤ n) (h : n < m) (hm : isWritable m = true) :
    isWritable n = true := by
  rw [isWritable, decide_eq_true_eq] at hm ⊢
  omega

/-- Why a text is not read as an integer. -/
inductive IntegerFault where
  /-- the text is not an integer at all -/
  | malformed (text : String)
  /-- the integer has more digits than are accepted -/
  | tooLong (digits : Nat)
deriving DecidableEq

/-- The wording of the causes for which a text is not read as an integer. Of a long text only the
beginning is shown. -/
def IntegerFault.message : IntegerFault → String
  | malformed s => s!"invalid literal for int() with base 10: {quotedFront 200 s}"
  | tooLong n =>
    s!"Exceeds the limit ({maxDigits} digits) for integer string conversion: value has {n} " ++
      "digits; use sys.set_int_max_str_digits() to increase the limit"

/-- The wording of the cause that an integer has too many digits to be written. -/
def longIntegerMessage : String :=
  s!"Exceeds the limit ({maxDigits} digits) for integer string conversion; " ++
    "use sys.set_int_max_str_digits() to increase the limit"

/-- Blank characters that may surround a written integer. -/
def isIntegerPadding (c : Char) : Bool :=
  isBlank c && !(28 ≤ c.toNat && c.toNat ≤ 31)

/-- The sign of a written integer, and what follows it. -/
def splitSign : List Char → Bool × List Char
  | '-' :: cs => (true, cs)
  | '+' :: cs => (false, cs)
  | cs => (false, cs)

/-- A character that may stand between the sign and the end of an integer. -/
def isIntegerBody (c : Char) : Bool := c == '_' || (digitValue? c).isSome

/-- Reads a decimal integer. -/
def readInteger (s : String) : Except IntegerFault Int :=
  let (negative, cs) := splitSign (trimChars isIntegerPadding s.toList)
  match readDigits (cs.takeWhile isIntegerBody) with
  | none => .error (.malformed s)
  | some ds =>
    if maxDigits < ds.length then .error (.tooLong ds.length)
    else if cs.all isIntegerBody then
      .ok (if negative then -(ofDigits ds : Int) else ofDigits ds)
    else .error (.malformed s)

end PlayTrace.Text
