import PlayTrace.Number.Rounding

/-!
# Shortest decimal text

The text of a binary floating-point number: the decimal with the fewest digits among those that
round to the number, and of these the nearest to it. It is found by looking, for one digit, two
digits and so on, at the two neighbours of the number on the decimal grid with that many digits.
Seventeen digits always suffice.

The digits are written positionally when the decimal exponent lies from -4 to 15, with at least one
digit on each side of the point, and otherwise with an exponent of at least two digits.
-/

namespace PlayTrace

namespace Number

/-- The rationals that round to a given number: those between two bounds, which belong to the
interval when the significand is even. -/
structure RoundingInterval where
  lower : Rat
  upper : Rat
  closed : Bool

/-- The rationals that round to the positive floating-point number `q`. -/
def roundingInterval (q : Rat) : RoundingInterval :=
  let g := gridExponent (binaryExponent q.num.natAbs q.den)
  let unit := scaled 1 g
  let m := (q / unit).num.natAbs
  let gapBelow := if m = Nat.pow 2 52 && -1074 < g then unit / 4 else unit / 2
  { lower := q - gapBelow, upper := q + unit / 2, closed := m % 2 == 0 }

/-- Whether a rational lies in the interval. -/
def RoundingInterval.has (i : RoundingInterval) (q : Rat) : Bool :=
  if i.closed then i.lower ≤ q && q ≤ i.upper else i.lower < q && q < i.upper

/-- A power of ten. -/
def powerOfTen (e : Int) : Rat :=
  if 0 ≤ e then (Nat.pow 10 e.toNat : Nat) else mkRat 1 (Nat.pow 10 (-e).toNat)

/-- The exponent `k` with `10 ^ k ≤ q < 10 ^ (k + 1)`, for a positive `q`: found from the lengths of
numerator and denominator up to one. -/
def decimalExponent (q : Rat) : Int :=
  let k : Int := (Nat.toDigits 10 q.num.natAbs).length - (Nat.toDigits 10 q.den).length
  if powerOfTen k ≤ q then k else k - 1

/-- The neighbour of `q` on the grid of `n` decimal digits that lies in the interval, as a multiple
of the grid's unit; the nearer one if both do, and of two equally near ones the even one. -/
def neighbour? (i : RoundingInterval) (q : Rat) (unit : Rat) : Option Nat :=
  let down := (q / unit).floor.toNat
  let up := down + 1
  match i.has (down * unit), i.has (up * unit) with
  | false, false => none
  | true, false => some down
  | false, true => some up
  | true, true =>
    let fromDown := q - down * unit
    let toUp := up * unit - q
    if fromDown < toUp then some down
    else if toUp < fromDown then some up
    else some (if down % 2 = 0 then down else up)

/-- The shortest digits of a positive number, tried from `n` digits on, with the exponent of the
last digit. -/
def shortestFrom (i : RoundingInterval) (q : Rat) (k : Int) : Nat → Nat → Nat × Int
  | 0, n => ((q / powerOfTen (k - n + 1)).floor.toNat, k - n + 1)
  | fuel + 1, n =>
    let e := k - n + 1
    match neighbour? i q (powerOfTen e) with
    | some m => (m, e)
    | none => shortestFrom i q k fuel (n + 1)

/-- The digits of a positive floating-point number and its decimal exponent. -/
def shortestDigits (q : Rat) : List Char × Int :=
  let (m, e) := shortestFrom (roundingInterval q) q (decimalExponent q) 17 1
  let digits := Nat.toDigits 10 m
  let significant := (digits.reverse.dropWhile (· = '0')).reverse
  (significant, e + digits.length - 1)

/-- The text of digits with the point after the first one moved by `e` places. -/
def positional (digits : List Char) (e : Int) : List Char :=
  if e < 0 then '0' :: '.' :: (List.replicate (-e - 1).toNat '0' ++ digits)
  else
    let whole := e.toNat + 1
    if digits.length ≤ whole then
      digits ++ List.replicate (whole - digits.length) '0' ++ ['.', '0']
    else digits.take whole ++ '.' :: digits.drop whole

/-- The text of digits with a written exponent. -/
def scientific (digits : List Char) (e : Int) : List Char :=
  let fraction := digits.drop 1
  let exponent := Nat.toDigits 10 e.natAbs
  digits.take 1 ++ (if fraction.isEmpty then [] else '.' :: fraction) ++
    ['e', if e < 0 then '-' else '+'] ++
    (if exponent.length < 2 then '0' :: exponent else exponent)

/-- The text of a positive floating-point number. -/
def positiveText (q : Rat) : String :=
  let (digits, e) := shortestDigits q
  String.ofList (if -4 ≤ e && e < 16 then positional digits e else scientific digits e)

/-- The text of a number. -/
def text : Number → String
  | negZero => "-0.0"
  | infinite false => "inf"
  | infinite true => "-inf"
  | undefined => "nan"
  | finite q =>
    if q.num = 0 then "0.0"
    else if q.num < 0 then "-" ++ positiveText (-q)
    else positiveText q

end Number

end PlayTrace
