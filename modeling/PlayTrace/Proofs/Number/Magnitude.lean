import Mathlib.Algebra.Order.Field.Rat
import Mathlib.Tactic.Linarith
import Mathlib.Tactic.Positivity
import Mathlib.Tactic.Ring
import PlayTrace.Number.Binary64
import PlayTrace.Proofs.Success

/-!
# Magnitudes

How large the numbers can become that arithmetic comes across, in either precision. A number is
`Within b` when it stands for a rational of magnitude `2 ^ b` at most; each operation adds a little
to the exponent. Under exact arithmetic no exponent is too large. Under binary floating-point
arithmetic, as long as the exponents stay well below 1024 nothing becomes infinite, so nothing
fails.

The bounds are generous: they are there to show that pixel positions of a level of any size that can
exist are computed without a fault, not to show how precise they are.

## Main results

* `Number.roundPositive_le`, `roundBinary64_within` — rounding at most doubles a magnitude
* `Number.binarySquare_ne_infinite` — small numbers have squares
* `Precision.ofInt_ok`, `convert_ok`, `square_ok` — operations that may fail do not
* `Precision.sub_within` — a difference
-/

namespace PlayTrace

namespace Number

/-- The number stands for a rational of magnitude at most `2 ^ b`. -/
def Within (b : Nat) (a : Number) : Prop := ∃ q : Rat, a.toRat? = some q ∧ |q| ≤ 2 ^ b

theorem Within.mono {a : Number} {b c : Nat} (h : a.Within b) (hbc : b ≤ c) : a.Within c := by
  obtain ⟨q, hq, hle⟩ := h
  exact ⟨q, hq, hle.trans (pow_le_pow_right₀ one_le_two hbc)⟩

/-! ### Rounding -/

theorem roundHalfEven_le (num den : Nat) : roundHalfEven num den ≤ num / den + 1 := by
  simp only [roundHalfEven]
  split
  · omega
  · split <;> omega

theorem binaryExponent_le {num den b : Nat} (hnum : num ≠ 0) (h : num ≤ den * 2 ^ b) :
    binaryExponent num den ≤ b := by
  have hlog : num.log2 < den.log2 + 1 + b := by
    have hlt : 2 ^ num.log2 < 2 ^ (den.log2 + 1 + b) :=
      calc 2 ^ num.log2 ≤ num := Nat.log2_self_le hnum
        _ ≤ den * 2 ^ b := h
        _ < 2 ^ (den.log2 + 1) * 2 ^ b :=
          Nat.mul_lt_mul_of_pos_right Nat.lt_log2_self (Nat.two_pow_pos b)
        _ = 2 ^ (den.log2 + 1 + b) := (pow_add ..).symm
    exact (Nat.pow_lt_pow_iff_right (by decide)).1 hlt
  simp only [binaryExponent]
  split <;> omega

/-- Rounding at most doubles the bound. -/
theorem roundPositive_le {num den b : Nat} (hnum : num ≠ 0) (h : num ≤ den * 2 ^ b) :
    roundPositive num den ≤ 2 ^ (b + 1) := by
  have hexp := binaryExponent_le hnum h
  simp only [roundPositive]
  generalize hg : gridExponent (binaryExponent num den) = g
  have hgle : g ≤ b := by rw [← hg, gridExponent]; omega
  have hdiv : num / den ≤ 2 ^ b := Nat.div_le_of_le_mul h
  by_cases hpos : 0 ≤ g
  · rw [if_pos hpos, scaled, if_pos hpos]
    have hpow : 2 ^ g.toNat ≤ 2 ^ b := Nat.pow_le_pow_right (by decide) (by omega)
    have hmul : roundHalfEven num (den * 2 ^ g.toNat) * 2 ^ g.toNat ≤ 2 ^ (b + 1) :=
      calc roundHalfEven num (den * 2 ^ g.toNat) * 2 ^ g.toNat
          ≤ (num / (den * 2 ^ g.toNat) + 1) * 2 ^ g.toNat :=
            Nat.mul_le_mul_right _ (roundHalfEven_le _ _)
        _ = num / den / 2 ^ g.toNat * 2 ^ g.toNat + 2 ^ g.toNat := by
            rw [Nat.div_div_eq_div_mul, Nat.add_mul, Nat.one_mul]
        _ ≤ num / den + 2 ^ g.toNat := Nat.add_le_add_right (Nat.div_mul_le_self _ _) _
        _ ≤ 2 ^ b + 2 ^ b := Nat.add_le_add hdiv hpow
        _ = 2 ^ (b + 1) := by ring
    exact_mod_cast hmul
  · rw [if_neg hpos, scaled, if_neg hpos]
    generalize (-g).toNat = k
    have hmul : roundHalfEven (num * 2 ^ k) den ≤ 2 ^ (b + 1) * 2 ^ k :=
      calc roundHalfEven (num * 2 ^ k) den
          ≤ num * 2 ^ k / den + 1 := roundHalfEven_le _ _
        _ ≤ 2 ^ b * 2 ^ k + 2 ^ b * 2 ^ k := by
            refine Nat.add_le_add (Nat.div_le_of_le_mul ?_) ?_
            · rw [← Nat.mul_assoc]
              exact Nat.mul_le_mul_right _ h
            · exact Nat.mul_pos (Nat.two_pow_pos b) (Nat.two_pow_pos k)
        _ = 2 ^ (b + 1) * 2 ^ k := by ring
    have hpos : (0 : Rat) < ((2 ^ k : Nat) : Rat) := by positivity
    rw [Nat.pow_eq, Rat.mkRat_eq_div, div_le_iff₀ hpos]
    exact_mod_cast hmul

theorem roundPositive_nonneg (num den : Nat) : 0 ≤ roundPositive num den := by
  simp only [roundPositive, scaled]
  split
  · exact Nat.cast_nonneg _
  · rw [Rat.mkRat_eq_div]
    positivity

theorem natAbs_num_le {q : Rat} {b : Nat} (h : |q| ≤ 2 ^ b) : q.num.natAbs ≤ q.den * 2 ^ b := by
  have hden : (0 : Rat) < q.den := by exact_mod_cast q.den_pos
  have hq : |q| = (q.num.natAbs : Rat) / q.den :=
    calc |q| = |(q.num : Rat) / q.den| := by rw [Rat.num_div_den]
      _ = |(q.num : Rat)| / q.den := by rw [abs_div, abs_of_pos hden]
      _ = (q.num.natAbs : Rat) / q.den := by rw [Nat.cast_natAbs, Int.cast_abs]
  rw [hq, div_le_iff₀ hden, mul_comm] at h
  exact_mod_cast h

theorem lt_cast_two_pow {q : Rat} {b n : Nat} (h : q ≤ 2 ^ b) (hb : b < n) :
    q < (Nat.pow 2 n : Nat) := by
  rw [Nat.pow_eq, Nat.cast_pow, Nat.cast_ofNat]
  exact h.trans_lt (pow_lt_pow_right₀ one_lt_two hb)

/-- A rational well within the range of the machine is rounded to a finite number. -/
theorem roundBinary64_within {q : Rat} {b : Nat} (h : |q| ≤ 2 ^ b) (hb : b + 1 < 1024) :
    (roundBinary64 q).Within (b + 1) := by
  rw [roundBinary64]
  split
  · exact ⟨0, rfl, by simp⟩
  · rename_i hnum
    have hle := roundPositive_le (Int.natAbs_ne_zero.2 hnum) (natAbs_num_le h)
    have hnonneg := roundPositive_nonneg q.num.natAbs q.den
    have hrange := not_le.2 (lt_cast_two_pow hle hb)
    dsimp only
    rw [if_neg hrange]
    split
    · split <;> exact ⟨0, rfl, by simp⟩
    · split
      · exact ⟨_, rfl, by rw [abs_neg, abs_of_nonneg hnonneg]; exact hle⟩
      · exact ⟨_, rfl, by rw [abs_of_nonneg hnonneg]; exact hle⟩

/-- A square well within the range of the machine is not infinite. -/
theorem binarySquare_ne_infinite {q : Rat} {b : Nat} (h : |q * q| ≤ 2 ^ b) (hb : b < 1023)
    (s : Bool) : binarySquare q ≠ .infinite s := by
  have hnearest : roundBinary64 (q * q) ≠ .infinite s := by
    obtain ⟨r, hr, -⟩ := roundBinary64_within h (by omega)
    intro heq
    rw [heq] at hr
    cases hr
  have hsmall := lt_cast_two_pow ((le_abs_self _).trans h) hb
  intro hs
  simp only [binarySquare, if_pos hsmall] at hs
  split at hs
  · exact hnearest hs
  · split at hs
    · exact hnearest hs
    · rename_i hpower
      exact hpower s hs

theorem Within.truncate_ok {a : Number} {b : Nat} (h : a.Within b) :
    ∃ n, a.truncate = .ok n ∧ |n| ≤ 2 ^ b := by
  obtain ⟨q, hq, hle⟩ := h
  cases a with
  | finite r =>
    cases hq
    refine ⟨truncateRat q, rfl, ?_⟩
    have hnum : q.num.natAbs ≤ q.den * 2 ^ b := natAbs_num_le hle
    have hdiv : (q.num.tdiv q.den).natAbs ≤ 2 ^ b := by
      rw [Int.natAbs_tdiv, Int.natAbs_natCast]
      exact Nat.div_le_of_le_mul hnum
    rw [truncateRat, Int.abs_eq_natAbs]
    exact_mod_cast hdiv
  | negZero => exact ⟨0, rfl, by positivity⟩
  | infinite s => cases hq
  | undefined => cases hq

end Number

namespace Precision

open Number (Within)

/-- The exponents that numbers of a precision may reach without becoming infinite. -/
def Reaches : Precision → Nat → Prop
  | exact, _ => True
  | binary64, b => b < 1023

theorem Reaches.mono {p : Precision} {b c : Nat} (h : p.Reaches c) (hbc : b ≤ c) : p.Reaches b := by
  cases p with
  | exact => trivial
  | binary64 => exact lt_of_le_of_lt hbc h

theorem round_within {p : Precision} {q : Rat} {b : Nat} (h : |q| ≤ 2 ^ b) (hb : p.Reaches b) :
    (p.round q).Within (b + 1) := by
  cases p with
  | exact => exact ⟨q, rfl, h.trans (pow_le_pow_right₀ one_le_two (Nat.le_succ b))⟩
  | binary64 => exact Number.roundBinary64_within h (by simp only [Reaches] at hb; omega)

/-! ### Operations that may fail -/

theorem ofInt_ok {p : Precision} {n : Int} {b : Nat} (h : |n| ≤ 2 ^ b) (hb : p.Reaches b) :
    ∃ a, p.ofInt n = .ok a ∧ a.Within (b + 1) := by
  have hround : (p.round n).Within (b + 1) := round_within (by exact_mod_cast h) hb
  refine ⟨p.round n, ?_, hround⟩
  obtain ⟨q, hq, -⟩ := hround
  rw [ofInt]
  split
  · rename_i s heq
    rw [heq] at hq
    cases hq
  · rfl

theorem convert_ok {p : Precision} {a : Number} {b : Nat} (h : a.Within b) (hb : p.Reaches b) :
    ∃ c, p.convert a = .ok c ∧ c.Within (b + 1) := by
  have hof : (p.ofNumber a).Within (b + 1) := by
    cases a with
    | finite r =>
      obtain ⟨q, hq, hle⟩ := h
      cases hq
      exact round_within hle hb
    | negZero => exact h.mono (Nat.le_succ b)
    | infinite s => exact h.mono (Nat.le_succ b)
    | undefined => exact h.mono (Nat.le_succ b)
  refine ⟨p.ofNumber a, ?_, hof⟩
  obtain ⟨q, hq, -⟩ := hof
  unfold convert
  split
  · rename_i r s heq
    rw [heq] at hq
    cases hq
  · rfl

theorem sub_within {p : Precision} {a c : Number} {b : Nat} (ha : a.Within b) (hc : c.Within b)
    (hb : p.Reaches (b + 1)) : (p.sub a c).Within (b + 2) := by
  obtain ⟨q, hq, hqle⟩ := ha
  obtain ⟨r, hr, hrle⟩ := hc
  have hdiff : |q - r| ≤ 2 ^ (b + 1) :=
    calc |q - r| ≤ |q| + |r| := abs_sub q r
      _ ≤ 2 ^ b + 2 ^ b := add_le_add hqle hrle
      _ = 2 ^ (b + 1) := by ring
  have hround := round_within hdiff hb
  have hsub : p.sub a c = p.round (q - r) := by
    cases a <;> cases c <;> cases hq <;> cases hr <;> rfl
  rw [hsub]
  exact hround

theorem square_ok {p : Precision} {a : Number} {b : Nat} (h : a.Within b)
    (hb : p.Reaches (2 * b + 1)) : ∃ c, p.square a = .ok c := by
  obtain ⟨q, hq, hle⟩ := h
  cases a with
  | infinite s => cases hq
  | undefined => cases hq
  | negZero => exact ⟨_, rfl⟩
  | finite r =>
    cases hq
    cases p with
    | exact => exact ⟨_, rfl⟩
    | binary64 =>
      have hsq : |q * q| ≤ 2 ^ (2 * b) := by
        rw [abs_mul, two_mul, pow_add]
        exact mul_le_mul hle hle (abs_nonneg q) (by positivity)
      have hfinite := Number.binarySquare_ne_infinite hsq (by simp only [Reaches] at hb; omega)
      refine ⟨Number.binarySquare q, ?_⟩
      simp only [square]

end Precision

end PlayTrace
