import ArticleExport.Number.Shortest

/-!
# Rounded decimals

A binary number on a given number of decimal places, a half going up.
-/

namespace ArticleExport.Rounded

open Shortest

/-- The digits of `m * 2 ^ q` with `0 < m` on so many places, without zeros at the end, and the exponent
of the first one. -/
def digits (places m : Nat) (q : Int) : List Char × Int :=
  let (t, t') := powerOfTwo q
  let num := m * t
  let k := leadingExponent num t'
  let (p, p') := powerOfTen (places - 1 - k)
  let all := Nat.toDigits 10 ((2 * num * p + t' * p') / (2 * t' * p'))
  ((all.reverse.dropWhile (· == '0')).reverse, k + all.length - places)

end ArticleExport.Rounded
