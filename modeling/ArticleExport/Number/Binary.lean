/-!
# Binary floating-point numbers as ratios

A finite binary64 number is a whole number times a power of two.  Everything exact that an export
needs of such numbers (their shortest decimal text, their whole part, their order against integers)
is computed on that form.
-/

namespace ArticleExport

/-- What a binary64 number stands for. -/
inductive FloatValue where
  /-- Not a number. -/
  | nan
  /-- An infinity. -/
  | infinite (negative : Bool)
  /-- `mantissa * 2 ^ exponent`, below zero where `negative`. -/
  | finite (negative : Bool) (mantissa : Nat) (exponent : Int)
deriving DecidableEq, Repr

namespace FloatValue

/-- The value of a binary64 number. -/
def ofFloat (x : Float) : FloatValue :=
  let bits := x.toBits.toNat
  let negative := bits / Nat.pow 2 63 == 1
  let exponent : Nat := bits / Nat.pow 2 52 % Nat.pow 2 11
  let fraction := bits % Nat.pow 2 52
  if exponent = Nat.pow 2 11 - 1 then
    if fraction = 0 then infinite negative else nan
  else if exponent = 0 then finite negative fraction (-1074)
  else finite negative (Nat.pow 2 52 + fraction) ((exponent : Int) - 1075)

/-- The value as numerator and denominator, where it is finite. -/
def ratio? : FloatValue → Option (Int × Nat)
  | finite negative m q =>
    let (num, den) := if q < 0 then (m, Nat.pow 2 (-q).toNat) else (m * Nat.pow 2 q.toNat, 1)
    some (if negative then -(num : Int) else num, den)
  | _ => none

end FloatValue

/-- The whole part, digits after the point dropped; infinities and NaN have none. -/
def truncate? (x : Float) : Option Int :=
  (FloatValue.ofFloat x).ratio?.map fun (num, den) => num.tdiv den

/-- The integer that a number is, where it is one. -/
def integral? (x : Float) : Option Int :=
  (FloatValue.ofFloat x).ratio?.bind fun (num, den) =>
    if num % den = 0 then some (num / den) else none

/-- The nearest binary64 number to an integer, ties to even; none where it would be infinite. -/
def floatOfInt? (n : Int) : Option Float :=
  let x := Float.ofInt n
  if x.isFinite then some x else none

/-- Whether a number is at most another one, one of them a float and one an integer, without rounding. -/
def floatLeInt (x : Float) (n : Int) : Bool :=
  match FloatValue.ofFloat x with
  | .nan => false
  | .infinite negative => negative
  | v => match v.ratio? with
    | some (num, den) => decide (num ≤ n * den)
    | none => false

/-- Whether an integer is at most a float, without rounding. -/
def intLeFloat (n : Int) (x : Float) : Bool :=
  match FloatValue.ofFloat x with
  | .nan => false
  | .infinite negative => !negative
  | v => match v.ratio? with
    | some (num, den) => decide (n * den ≤ num)
    | none => false

end ArticleExport
