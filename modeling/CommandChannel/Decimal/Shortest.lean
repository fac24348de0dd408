/-!
# The shortest decimal of a binary number

A binary number `m · 2^q` stands for every real nearer to it than to its neighbours. Its shortest
decimal is the point of the coarsest grid `10^k · ℤ` in that interval, and the nearer of two such
points. Of two equally near ones a tie rule picks one. All comparisons are between natural numbers.
-/

namespace CommandChannel

/-- A positive number `mantissa · 2^exponent` with its place among its neighbours. -/
structure Binary where
  mantissa : Nat
  exponent : Int
  /-- The neighbour below is only half as far away as the one above. -/
  narrowBelow : Bool
deriving DecidableEq, Repr

/-- A positive number `digits · 10^exponent`. -/
structure Decimal where
  digits : Nat
  exponent : Int
deriving DecidableEq, Repr

/-- Which one of two equally near decimals is taken. -/
inductive TieRule where
  /-- The one whose last digit is even. -/
  | even
  /-- The greater one. -/
  | up
deriving DecidableEq, Repr

/-- The one of `below` and its successor that is taken if both are equally near. -/
def TieRule.settle : TieRule → Nat → Nat
  | even, below => if below % 2 = 0 then below else below + 1
  | up, below => below + 1

namespace Binary

/-- The bit above the 52 stored bits of a mantissa, which is set unless the number is very small. -/
def hiddenBit : Nat := Nat.pow 2 52

/-- The number with the given bits, the sign left aside. -/
def ofBits (bits : UInt64) : Binary :=
  let fraction : Nat := bits.toNat % hiddenBit
  let scale : Nat := bits.toNat / hiddenBit % 2048
  if scale = 0 then
    ⟨fraction, -1074, false⟩
  else
    ⟨hiddenBit + fraction, (scale : Int) - 1075, fraction == 0 && scale != 1⟩

/-- The numerator and the denominator of `2^(exponent - 2) / 10^k`. -/
def scale (b : Binary) (k : Int) : Nat × Nat :=
  (Nat.pow 2 (b.exponent - 2).toNat * Nat.pow 10 (-k).toNat,
    Nat.pow 2 (2 - b.exponent).toNat * Nat.pow 10 k.toNat)

/-- The multiple `c · 10^k` rounds to this number: it is nearer to it than to its neighbours, or
half way to one of them while the mantissa is even. -/
def represents (b : Binary) (k : Int) (c : Nat) : Bool :=
  let (num, den) := b.scale k
  let low := (4 * b.mantissa - if b.narrowBelow then 1 else 2) * num
  let high := (4 * b.mantissa + 2) * num
  let point := c * den
  if b.mantissa % 2 = 0 then low ≤ point && point ≤ high else low < point && point < high

/-- The multiples of `10^k` around the number that round to it, the better one of two. -/
def onGrid (ties : TieRule) (b : Binary) (k : Int) : Option Nat :=
  let (num, den) := b.scale k
  let value := 4 * b.mantissa * num
  let below := value / den
  match b.represents k below, b.represents k (below + 1) with
  | true, false => some below
  | false, true => some (below + 1)
  | false, false => none
  | true, true =>
    let twice := 2 * value
    let middle := (2 * below + 1) * den
    if twice < middle then some below
    else if middle < twice then some (below + 1)
    else some (ties.settle below)

/-- An exponent `k` with `10^k` at least the number. -/
def topExponent (b : Binary) : Int :=
  let num := b.mantissa * Nat.pow 2 b.exponent.toNat
  let den := Nat.pow 2 (-b.exponent).toNat
  if den ≤ num then
    ((Nat.toDigits 10 (num / den)).length : Int)
  else
    1 - ((Nat.toDigits 10 (den / num)).length : Int)

/-- The first grid from `10^k` downwards, among the next `fuel`, with a point that rounds to the
number. -/
def shortestFrom (ties : TieRule) (b : Binary) (k : Int) : Nat → Decimal
  | 0 => ⟨b.mantissa, 0⟩
  | fuel + 1 =>
    match b.onGrid ties k with
    | some c => ⟨c, k⟩
    | none => b.shortestFrom ties (k - 1) fuel

/-- The shortest decimal that rounds to a 53-bit number. Nineteen grids suffice: with seventeen
digits every such number is told apart from its neighbours. -/
def shortest (ties : TieRule) (b : Binary) : Decimal := b.shortestFrom ties b.topExponent 20

end Binary

end CommandChannel
