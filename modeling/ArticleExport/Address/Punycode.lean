import ArticleExport.Text.Basic

/-!
# Punycode

A label of a host name in ASCII letters, digits and hyphens.  The ASCII of the label comes first; behind it
stand, in ascending order of the other code points, numbers that tell which one comes next and where.  A
number is written in digits of base 36, the least one first, and ends with the first digit below a
threshold, which follows the size of the numbers before it.
-/

namespace ArticleExport.Punycode

/-- The letter or digit of a value below thirty-six. -/
def digit (n : Nat) : CodePoint := .scalar (Char.ofNat (if n < 26 then 0x61 + n else 0x16 + n))

/-- The least value of a digit that does not end its number. -/
def threshold (position bias : Nat) : Nat := min 26 (max 1 (position - bias))

theorem threshold_pos (position bias : Nat) : 0 < threshold position bias := by
  unfold threshold
  omega

/-- The digits of a number from a position on. -/
def digits (bias position n : Nat) : Text :=
  let t := threshold position bias
  if n < t then [digit n]
  else digit (t + (n - t) % (36 - t)) :: digits bias (position + 36) ((n - t) / (36 - t))
termination_by n
decreasing_by
  have pos := threshold_pos position bias
  exact Nat.lt_of_le_of_lt (Nat.div_le_self _ _) (by omega)

/-- The bias for numbers of a size, with the positions that were counted before. -/
def biasOf (positions size : Nat) : Nat :=
  if 455 < size then biasOf (positions + 36) (size / 35)
  else positions + 36 * size / (size + 38)
termination_by size
decreasing_by exact Nat.div_lt_self (by omega) (by decide)

/-- The bias behind a number that was written for the code point that brings their count to `count`. -/
def adapted (number count : Nat) (isFirst : Bool) : Nat :=
  let size := if isFirst then number / 700 else number / 2
  biasOf 0 (size + size / count)

/-- A label on the way. -/
structure Progress where
  /-- What was written. -/
  written : Text
  /-- The next number so far. -/
  number : Nat
  /-- The bias of the next number. -/
  bias : Nat
  /-- How many code points are written. -/
  count : Nat

namespace Progress

/-- Passes a code point of the label while those of value `m` are written. -/
def pass (basic m : Nat) (p : Progress) (n : Nat) : Progress :=
  if n < m then { p with number := p.number + 1 }
  else if n = m then
    ⟨p.written ++ digits p.bias 36 p.number, 0, adapted p.number (p.count + 1) (p.count == basic),
      p.count + 1⟩
  else p

/-- Writes the code points of ascending values, of which those below `next` are written. -/
def writeAll (label : List Nat) (basic : Nat) (next : Nat) (p : Progress) : List Nat → Progress
  | [] => p
  | m :: values =>
    let p := { p with number := p.number + (m - next) * (p.count + 1) }
    let p := label.foldl (pass basic m) p
    writeAll label basic (m + 1) { p with number := p.number + 1 } values

end Progress

/-- The ASCII form of a label. -/
def encode (t : Text) : Text :=
  let plain := t.filter CodePoint.isAscii
  let label := t.map CodePoint.value
  let others := ((label.filter fun n => 0x80 ≤ n).mergeSort (· ≤ ·)).eraseDups
  let start := if plain.isEmpty then plain else plain ++ ("-" : Text)
  (Progress.writeAll label plain.length 0x80 ⟨start, 0, 72, plain.length⟩ others).written

example : encode "bücher" = "bcher-kva" := by cbv

end ArticleExport.Punycode
