/-!
# Numbers

The numbers of documents, orientations and pixel positions: the rational numbers, extended by the
four values that binary floating-point arithmetic adds to them.

Arithmetic is carried out on the rationals and then rounded, and `Precision` says how. Under
`Precision.exact` nothing is rounded, which is the arithmetic in which statements about pixel
positions are made. Under `Precision.binary64` every result is rounded to the nearest binary
floating-point number of 53 significant bits, which is the arithmetic in which the program runs.
The two agree on the integers that 53 bits can hold.
-/

namespace PlayTrace

/-- A rational number, or one of the special values of floating-point arithmetic. -/
inductive Number where
  | finite (value : Rat)
  | negZero
  | infinite (negative : Bool)
  | undefined
deriving DecidableEq

namespace Number

/-- What can go wrong when a number changes its form. -/
inductive Fault where
  /-- the number exceeds the greatest floating-point number -/
  | tooLarge
  /-- the number has no value -/
  | noValue
deriving DecidableEq

instance : Inhabited Number := ⟨finite 0⟩

instance : OfNat Number n := ⟨finite (n : Nat)⟩

/-- An integer as a number. -/
def ofInt (n : Int) : Number := finite n

/-- The rational that a number stands for. -/
def toRat? : Number → Option Rat
  | finite q => some q
  | negZero => some 0
  | infinite _ | undefined => none

/-- Whether two numbers are equal in value: the two zeros are, and the undefined number is not
even equal to itself. -/
def sameValue : Number → Number → Bool
  | undefined, _ | _, undefined => false
  | infinite s, infinite t => s == t
  | infinite _, _ | _, infinite _ => false
  | a, b => a.toRat? == b.toRat?

/-- Whether two numbers stand for the same: they are equal in value, or neither is defined. -/
def isSame (a b : Number) : Bool := a.sameValue b || (a = undefined && b = undefined)

/-- Whether one number lies strictly below another. The undefined number lies below none and
none below it. -/
def below : Number → Number → Bool
  | undefined, _ | _, undefined => false
  | infinite s, infinite t => s && !t
  | infinite s, _ => s
  | _, infinite t => !t
  | a, b => (a.toRat?.getD 0) < (b.toRat?.getD 0)

/-- Whether the number has value zero. -/
def isZero (a : Number) : Bool := a.toRat? == some 0

/-- The integer part of a rational, that is, the rational cut towards zero. -/
def truncateRat (q : Rat) : Int := q.num.tdiv q.den

/-- The number cut towards zero. -/
def truncate : Number → Except Fault Int
  | finite q => .ok (truncateRat q)
  | negZero => .ok 0
  | infinite _ => .error .tooLarge
  | undefined => .error .noValue

end Number

end PlayTrace
