import PlayTrace.Number.Rounding

/-!
# Reading decimals

The floating-point number nearest to a decimal. The value is computed exactly and rounded once.
A decimal so large or so small that its exponent alone settles the answer is not expanded.
-/

namespace PlayTrace

namespace Number

/-- The number nearest to `digits * 10 ^ exponent`, with the given sign. -/
def ofDecimal (negative : Bool) (digits : Nat) (exponent : Int) : Number :=
  let size : Int := (Nat.toDigits 10 digits).length + exponent
  if digits = 0 || size < -400 then if negative then negZero else finite 0
  else if 400 < size then infinite negative
  else
    let magnitude : Rat := if 0 ≤ exponent then (digits * Nat.pow 10 exponent.toNat : Nat)
      else mkRat digits (Nat.pow 10 (-exponent).toNat)
    roundBinary64 (if negative then -magnitude else magnitude)

end Number

end PlayTrace
