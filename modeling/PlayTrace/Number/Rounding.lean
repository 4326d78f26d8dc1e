import PlayTrace.Number.Basic

/-!
# Rounding

Rounding a rational number to the nearest binary floating-point number of 53 significant bits. Of
two numbers at the same distance the one with the even significand is taken; a result of 2 ^ 1024
or more is infinite; and below 2 ^ (-1022) the numbers lie on the grid of the multiples of
2 ^ (-1074).

All of it is integer arithmetic on numerator and denominator.
-/

namespace PlayTrace

namespace Number

/-- The quotient rounded to the nearest integer, a half to the even one. -/
def roundHalfEven (num den : Nat) : Nat :=
  let q := num / den
  let r := num % den
  if 2 * r < den then q
  else if 2 * r = den then q + q % 2
  else q + 1

/-- The exponent `e` with `2 ^ e ≤ num / den < 2 ^ (e + 1)`, for positive `num` and `den`. -/
def binaryExponent (num den : Nat) : Int :=
  let e : Int := (num.log2 : Int) - den.log2
  let reaches : Bool :=
    if 0 ≤ e then den * Nat.pow 2 e.toNat ≤ num else den ≤ num * Nat.pow 2 (-e).toNat
  if reaches then e else e - 1

/-- The exponent of the grid on which the numbers of the given binary exponent lie. -/
def gridExponent (e : Int) : Int := max (e - 52) (-1074)

/-- The product of a natural number and a power of two. -/
def scaled (m : Nat) (e : Int) : Rat :=
  if 0 ≤ e then (m * Nat.pow 2 e.toNat : Nat) else mkRat m (Nat.pow 2 (-e).toNat)

/-- The positive rational `num / den` rounded to 53 significant bits, the range of exponents
being unbounded above. -/
def roundPositive (num den : Nat) : Rat :=
  let g := gridExponent (binaryExponent num den)
  let m := if 0 ≤ g then roundHalfEven num (den * Nat.pow 2 g.toNat)
    else roundHalfEven (num * Nat.pow 2 (-g).toNat) den
  scaled m g

/-- The rational rounded to the nearest binary floating-point number. -/
def roundBinary64 (q : Rat) : Number :=
  if q.num = 0 then finite 0
  else
    let r := roundPositive q.num.natAbs q.den
    let negative := q.num < 0
    if (Nat.pow 2 1024 : Nat) ≤ r then infinite negative
    else if r = 0 then if negative then negZero else finite 0
    else finite (if negative then -r else r)

end Number

/-- How the results of arithmetic are rounded. -/
inductive Precision where
  /-- results are not rounded -/
  | exact
  /-- results are rounded to binary floating-point numbers -/
  | binary64
deriving DecidableEq

namespace Precision

open Number (Fault)

/-- The rational as a number of the given precision. -/
def round : Precision → Rat → Number
  | .exact, q => .finite q
  | .binary64, q => Number.roundBinary64 q

/-- An integer as a number of the given precision. -/
def ofInt (p : Precision) (n : Int) : Except Fault Number :=
  match p.round n with
  | .infinite _ => .error .tooLarge
  | x => .ok x

/-- A number brought to the given precision. -/
def ofNumber (p : Precision) : Number → Number
  | .finite q => p.round q
  | x => x

/-- A number brought to the given precision, if it is not too large for it. -/
def convert (p : Precision) (a : Number) : Except Fault Number :=
  match a, p.ofNumber a with
  | .finite _, .infinite _ => .error .tooLarge
  | _, b => .ok b

/-- The difference of two numbers. Its zeros have no sign. -/
def sub (p : Precision) : Number → Number → Number
  | .undefined, _ | _, .undefined => .undefined
  | .infinite s, .infinite t => if s = t then .undefined else .infinite s
  | .infinite s, _ => .infinite s
  | _, .infinite t => .infinite (!t)
  | a, b => p.round (a.toRat?.getD 0 - b.toRat?.getD 0)

/-- The sum of two numbers. Its zeros have no sign. -/
def add (p : Precision) : Number → Number → Number
  | .undefined, _ | _, .undefined => .undefined
  | .infinite s, .infinite t => if s = t then .infinite s else .undefined
  | .infinite s, _ => .infinite s
  | _, .infinite t => .infinite t
  | a, b => p.round (a.toRat?.getD 0 + b.toRat?.getD 0)

@[simp] theorem round_exact (q : Rat) : exact.round q = .finite q := rfl

@[simp] theorem ofInt_exact (n : Int) : exact.ofInt n = .ok (.finite n) := rfl

end Precision

end PlayTrace
