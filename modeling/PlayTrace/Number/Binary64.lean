import PlayTrace.Number.Rounding

/-!
# Numbers of the machine

The 64 bits of a binary floating-point number, and squares taken by the machine.

The highest bit is the sign. The others, read as one integer, put the magnitudes in order: first the
multiples of 2 ^ (-1074) below 2 ^ (-1022), then for each exponent the 2 ^ 52 numbers that have it,
and at last the infinity, which the undefined numbers follow.

The machine rounds a power to a number near it, which need not be the nearest one. What it is can be
found out by asking only; but a square that needs no rounding is exact, and a square well within the
range of the machine is not infinite.
-/

namespace PlayTrace

namespace Number

/-- The number of significands of one exponent. -/
def significands : Nat := Nat.pow 2 52

/-- The place of the infinity among the magnitudes. -/
def infinityCode : Nat := 2047 * significands

/-- The place of a positive floating-point number among the magnitudes. -/
def magnitudeCode (q : Rat) : Nat :=
  let g := gridExponent (binaryExponent q.num.natAbs q.den)
  (g + 1074).toNat * significands + (q / scaled 1 g).num.natAbs

/-- The magnitude at a place, as a multiple of a power of two. -/
def magnitudeAt (code : Nat) : Rat :=
  let field := code / significands
  if field = 0 then scaled code (-1074)
  else scaled (code % significands + significands) (field - 1075)

/-- The bits of a magnitude and its sign. -/
def signed (negative : Bool) (code : Nat) : UInt64 :=
  UInt64.ofNat (if negative then Nat.pow 2 63 + code else code)

/-- The bits of a floating-point number. -/
def toBits : Number → UInt64
  | negZero => signed true 0
  | infinite negative => signed negative infinityCode
  | undefined => signed false (infinityCode + significands / 2)
  | finite q => if q.num = 0 then 0 else signed (q.num < 0) (magnitudeCode q)

/-- The floating-point number of the given bits. -/
def ofBits (bits : UInt64) : Number :=
  let negative := Nat.pow 2 63 ≤ bits.toNat
  let code := bits.toNat % Nat.pow 2 63
  if infinityCode < code then undefined
  else if code = infinityCode then infinite negative
  else if code = 0 then if negative then negZero else finite 0
  else finite (if negative then -magnitudeAt code else magnitudeAt code)

/-- The power that the machine computes. -/
@[noinline] def machinePower (x : Number) (n : Nat) : Number :=
  ofBits ((Float.ofBits x.toBits).pow (Float.ofNat n)).toBits

/-- The square of a rational as a floating-point number. -/
def binarySquare (q : Rat) : Number :=
  let nearest := roundBinary64 (q * q)
  if nearest = .finite (q * q) then nearest
  else
    match machinePower (.finite q) 2 with
    | .infinite negative => if q * q < (Nat.pow 2 1023 : Nat) then nearest else .infinite negative
    | power => power

end Number

namespace Precision

open Number (Fault)

/-- The square of a number. A finite number whose square is infinite has none. -/
def square (p : Precision) : Number → Except Fault Number
  | .undefined => .ok .undefined
  | .infinite _ => .ok (.infinite false)
  | .negZero => .ok (.finite 0)
  | .finite q =>
    match p with
    | .exact => .ok (.finite (q * q))
    | .binary64 =>
      match Number.binarySquare q with
      | .infinite _ => .error .tooLarge
      | x => .ok x

end Precision

end PlayTrace
