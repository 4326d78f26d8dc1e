/-!
# The Mersenne twister

The generator MT19937: 624 words of 32 bits, renewed all at once when they are used up and scrambled
one by one on the way out. It is seeded with an integer of any size, whose magnitude is cut into
words of 32 bits, the lowest first.

Numbers below a bound are drawn by rejection: as many random bits as the bound has, again and again
until they write a number below it. Each try succeeds with a probability of at least one half, so
the limit on the number of tries is never met in practice.
-/

namespace PlayTrace

/-- The state of the generator. -/
structure Twister where
  /-- the 624 words of the generator -/
  words : Array UInt32
  /-- how many of the words are used up -/
  used : Nat

namespace Twister

/-- The number of words. -/
def size : Nat := 624

/-- The word at an index, zero outside the array. -/
def wordAt (ws : Array UInt32) (i : Nat) : UInt32 := ws[i]?.getD 0

/-- The words that a single seed word grows into, after `n` steps. -/
def spread (ws : Array UInt32) : Nat → Array UInt32
  | 0 => ws
  | n + 1 =>
    let ws := spread ws n
    let last := wordAt ws (ws.size - 1)
    ws.push ((1812433253 : UInt32) * (last ^^^ (last >>> 30)) + UInt32.ofNat ws.size)

/-- The words of the generator seeded with one word. -/
def ofWord (w : UInt32) : Array UInt32 := spread #[w] (size - 1)

/-- Where the mixing of a seed stands: the words, the index of the next word, and the index of the
next key word. -/
structure Mixing where
  words : Array UInt32
  i : Nat
  j : Nat

/-- Goes on to the next word, and from the last word back to the second. -/
def Mixing.wrap (m : Mixing) : Mixing :=
  if size ≤ m.i then { m with words := m.words.setIfInBounds 0 (wordAt m.words (size - 1)), i := 1 }
  else m

/-- Mixes a key word into the next word. -/
def Mixing.addKey (key : Array UInt32) (m : Mixing) : Mixing :=
  let before := wordAt m.words (m.i - 1)
  let w := (wordAt m.words m.i ^^^ ((before ^^^ (before >>> 30)) * 1664525)) + wordAt key m.j +
    UInt32.ofNat m.j
  let next : Mixing := { words := m.words.setIfInBounds m.i w, i := m.i + 1, j := m.j + 1 }
  let next := next.wrap
  if key.size ≤ next.j then { next with j := 0 } else next

/-- Mixes the words among themselves. -/
def Mixing.stir (m : Mixing) : Mixing :=
  let before := wordAt m.words (m.i - 1)
  let w := (wordAt m.words m.i ^^^ ((before ^^^ (before >>> 30)) * 1566083941)) - UInt32.ofNat m.i
  ({ m with words := m.words.setIfInBounds m.i w, i := m.i + 1 } : Mixing).wrap

/-- The words of the generator seeded with several words. -/
def ofKey (key : Array UInt32) : Array UInt32 :=
  let m : Mixing := { words := ofWord 19650218, i := 1, j := 0 }
  let m := Nat.repeat (Mixing.addKey key) (max size key.size) m
  let m := Nat.repeat Mixing.stir (size - 1) m
  m.words.setIfInBounds 0 0x80000000

/-- The 32-bit words of a natural number, the lowest first. -/
def wordsOf (n : Nat) : List UInt32 :=
  if n < 0x100000000 then [UInt32.ofNat n]
  else UInt32.ofNat (n % 0x100000000) :: wordsOf (n / 0x100000000)
termination_by n
decreasing_by omega

/-- The generator seeded with an integer, whose sign does not matter. -/
def seed (n : Int) : Twister := ⟨ofKey (wordsOf n.natAbs).toArray, size⟩

/-- One word of the next 624. -/
def renewed (ws : Array UInt32) (i : Nat) : UInt32 :=
  let y := (wordAt ws i &&& 0x80000000) ||| (wordAt ws ((i + 1) % size) &&& 0x7fffffff)
  wordAt ws ((i + 397) % size) ^^^ (y >>> 1) ^^^ (if y &&& 1 = 0 then 0 else 0x9908b0df)

/-- The first `n` of the next 624 words, in place of the old ones. -/
def renewFirst (ws : Array UInt32) : Nat → Array UInt32
  | 0 => ws
  | n + 1 =>
    let ws := renewFirst ws n
    ws.setIfInBounds n (renewed ws n)

/-- Scrambles a word on its way out. -/
def temper (y : UInt32) : UInt32 :=
  let y := y ^^^ (y >>> 11)
  let y := y ^^^ ((y <<< 7) &&& 0x9d2c5680)
  let y := y ^^^ ((y <<< 15) &&& 0xefc60000)
  y ^^^ (y >>> 18)

/-- The next random word. -/
def next (g : Twister) : UInt32 × Twister :=
  let g := if size ≤ g.used then ⟨renewFirst g.words size, 0⟩ else g
  (temper (wordAt g.words g.used), { g with used := g.used + 1 })

/-- A number of `k` random bits. Longer numbers are made of words, the lowest first, of which the
last one is cut to the bits that are left. -/
def bits (k : Nat) (g : Twister) : Nat × Twister :=
  if k = 0 then (0, g)
  else
    let (w, g) := g.next
    if k ≤ 32 then (w.toNat >>> (32 - k), g)
    else
      let (rest, g) := bits (k - 32) g
      (w.toNat + 0x100000000 * rest, g)
termination_by k
decreasing_by omega

/-- The number of bits that a natural number is written with. -/
def bitLength (n : Nat) : Nat := if n = 0 then 0 else n.log2 + 1

/-- A random number below `n`, by at most the given number of tries. -/
def below (n : Nat) : (tries : Nat) → Twister → Nat × Twister
  | 0, g => (0, g)
  | tries + 1, g =>
    let (r, g) := g.bits (bitLength n)
    if r < n then (r, g) else below n tries g

/-- A random number below `n`. -/
def draw (n : Nat) (g : Twister) : Nat × Twister := below n 10000 g

end Twister

end PlayTrace
