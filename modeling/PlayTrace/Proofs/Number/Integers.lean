import Mathlib.Tactic.FieldSimp
import PlayTrace.Proofs.Number.Magnitude

/-!
# Integers under rounding

An integer of 53 bits is a binary floating-point number, so rounding leaves it alone. Its binary
exponent is 52 at most, hence the grid on which it is rounded is a multiple of its denominator, and
what is to be rounded is an integer already.

## Main results

* `Number.roundBinary64_intCast` — integers of 53 bits are not rounded
* `Precision.ofInt_eq`, `convert_ofInt` — an integer that a precision has as a number
-/

namespace PlayTrace

namespace Number

theorem roundHalfEven_one (n : Nat) : roundHalfEven n 1 = n := by
  simp [roundHalfEven, Nat.mod_one]

theorem binaryExponent_one {n : Nat} (hn : n ≠ 0) : binaryExponent n 1 = n.log2 := by
  have hlog : Nat.log2 1 = 0 := rfl
  have hreaches : 2 ^ n.log2 ≤ n := Nat.log2_self_le hn
  simp [binaryExponent, hlog, hreaches]

/-- A positive integer of 53 bits lies on the grid on which it is rounded. -/
theorem roundPositive_one {n : Nat} (hn : n ≠ 0) (h : n < 2 ^ 53) : roundPositive n 1 = n := by
  have hlog : n.log2 < 53 := (Nat.log2_lt hn).2 h
  have hgrid : gridExponent (binaryExponent n 1) = -((52 - n.log2 : Nat) : Int) := by
    rw [binaryExponent_one hn, gridExponent]
    omega
  simp only [roundPositive, hgrid, neg_neg, Int.toNat_natCast]
  generalize 52 - n.log2 = k
  cases k with
  | zero => simp [scaled, roundHalfEven_one]
  | succ k =>
    have hneg : ¬ (0 : Int) ≤ -((k + 1 : Nat) : Int) := by omega
    have hpow : ((2 ^ (k + 1) : Nat) : Rat) ≠ 0 := by positivity
    rw [if_neg hneg, roundHalfEven_one, scaled, if_neg hneg, neg_neg, Int.toNat_natCast,
      Rat.mkRat_eq_div, Nat.pow_eq]
    push_cast at hpow ⊢
    field_simp

/-- **Integers of 53 bits are not rounded.** -/
theorem roundBinary64_intCast {n : Int} (h : |n| < 2 ^ 53) : roundBinary64 n = .finite n := by
  rw [roundBinary64, Rat.num_intCast, Rat.den_intCast]
  split
  · rename_i hzero
    rw [hzero]
    rfl
  · rename_i hne
    have habs : n.natAbs < 2 ^ 53 := by
      rw [Int.abs_eq_natAbs] at h
      exact_mod_cast h
    have hround : roundPositive n.natAbs 1 = (n.natAbs : Rat) :=
      roundPositive_one (Int.natAbs_ne_zero.2 hne) habs
    have hpos : (n.natAbs : Rat) ≠ 0 := by exact_mod_cast Int.natAbs_ne_zero.2 hne
    have hle : (n.natAbs : Rat) ≤ 2 ^ 53 := by exact_mod_cast habs.le
    have hsmall : 53 < 1024 := by decide
    have hrange := not_le.2 (lt_cast_two_pow hle hsmall)
    dsimp only
    rw [hround, if_neg hrange, if_neg hpos, Nat.cast_natAbs]
    split
    · rename_i hnegative
      rw [abs_of_neg hnegative, Int.cast_neg, neg_neg]
    · rename_i hnonneg
      rw [abs_of_nonneg (not_lt.1 hnonneg)]

end Number

/-- An integer that a precision has as a number. -/
theorem Precision.ofInt_eq {p : Precision} {n : Int} (h : p = .binary64 → |n| < 2 ^ 53) :
    p.ofInt n = .ok (.finite n) := by
  cases p with
  | exact => rfl
  | binary64 => rw [ofInt, round, Number.roundBinary64_intCast (h rfl)]

/-- An integer that a precision has is not changed by it. -/
theorem Precision.convert_ofInt {p : Precision} {n : Int} (h : p = .binary64 → |n| < 2 ^ 53) :
    p.convert (.ofInt n) = .ok (.ofInt n) := by
  cases p with
  | exact => rfl
  | binary64 =>
    have hround : Precision.binary64.ofNumber (.ofInt n) = .ofInt n :=
      Number.roundBinary64_intCast (h rfl)
    unfold convert
    rw [hround]
    rfl

end PlayTrace
