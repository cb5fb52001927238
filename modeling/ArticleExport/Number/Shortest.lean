import ArticleExport.Number.Binary

/-!
# The shortest decimal of a binary number

Among the decimals that round to a given binary number, the ones with the fewest digits, and of those
the nearest.  The reals that round to `m * 2 ^ q` form an interval, whose ends belong to it exactly
when `m` is even.  A grid of decimals that meets the interval has one of the two neighbours of the
number in it, so only these are tried, on finer and finer grids.
-/

namespace ArticleExport.Shortest

/-- `10 ^ e` as numerator and denominator. -/
def powerOfTen (e : Int) : Nat × Nat :=
  if e < 0 then (1, Nat.pow 10 (-e).toNat) else (Nat.pow 10 e.toNat, 1)

/-- `2 ^ e` as numerator and denominator. -/
def powerOfTwo (e : Int) : Nat × Nat :=
  if e < 0 then (1, Nat.pow 2 (-e).toNat) else (Nat.pow 2 e.toNat, 1)

/-- The exponent of the first digit: the greatest `k` with `10 ^ k ≤ num / den`. -/
def leadingExponent (num den : Nat) : Int :=
  if den ≤ num then (Nat.toDigits 10 (num / den)).length - 1
  else -((Nat.toDigits 10 ((den + num - 1) / num - 1)).length : Int)

/-- Whether `c` units lie in the interval of `m`, where `4 * m` quarters are `b / a` units apiece. -/
def hits (m lowGap a b c : Nat) : Bool :=
  let low := (4 * m - lowGap) * b
  let high := (4 * m + 2) * b
  if m % 2 = 0 then low ≤ c * a && c * a ≤ high else low < c * a && c * a < high

/-- The decimal of `m * 2 ^ q` on the grid of `10 ^ e`, where one rounds to it: the nearer of the two
neighbours that do, the even one on a tie. -/
def onGrid? (m : Nat) (q : Int) (e : Int) : Option Nat :=
  let lowGap := if m = Nat.pow 2 52 ∧ -1074 < q then 1 else 2
  let (p, p') := powerOfTen e
  let (t, t') := powerOfTwo (q - 2)
  let a := p * t'
  let b := t * p'
  let f := 4 * m * b / a
  let nearer :=
    let twice := 2 * (4 * m * b)
    let middle := (2 * f + 1) * a
    if twice < middle then f else if middle < twice then f + 1 else if f % 2 = 0 then f else f + 1
  if hits m lowGap a b nearer then some nearer
  else if hits m lowGap a b f then some f
  else if hits m lowGap a b (f + 1) then some (f + 1)
  else none

/-- Tries the grids with `digits`, `digits + 1`, … digits. -/
def search (m : Nat) (q k : Int) (digits : Nat) : Nat → Nat × Int
  | 0 => (0, 0)
  | fuel + 1 =>
    let e := k - digits + 1
    match onGrid? m q e with
    | some c => (c, e)
    | none => search m q k (digits + 1) fuel

/-- The shortest decimal of `m * 2 ^ q` with `0 < m`: its digits as a number, and the exponent of the
last digit.  Seventeen digits always suffice. -/
def decimal (m : Nat) (q : Int) : Nat × Int :=
  let (t, t') := powerOfTwo q
  search m q (leadingExponent (m * t) t') 1 17

/-- The digits of the shortest decimal without zeros at the end, and the exponent of the first one. -/
def digits (m : Nat) (q : Int) : List Char × Int :=
  let (c, e) := decimal m q
  let all := Nat.toDigits 10 c
  ((all.reverse.dropWhile (· == '0')).reverse, e + all.length - 1)

end ArticleExport.Shortest
