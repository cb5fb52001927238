import ArticleExport.Number.Rounded
import ArticleExport.Text.Basic

/-!
# Decimal notation

How binary numbers are written, and how decimal notation is read.
-/

namespace ArticleExport

/-- The decisions of a decimal notation. -/
structure DecimalNotation where
  /-- The least exponent of the first digit that is written with a plain point. -/
  leastPositional : Int
  /-- The first exponent that is too great for a plain point. -/
  endPositional : Int
  /-- The text of not-a-number. -/
  nan : Text
  /-- The text of infinity. -/
  infinity : Text
  /-- How many digits there are at most; where nothing is said, as many as it takes to tell the number from
  all others. -/
  places : Option Nat
  /-- Whether a point and a zero follow a single digit before an exponent. -/
  pointed : Bool
  /-- Whether a negative zero keeps its sign. -/
  signedZero : Bool

/-- Numbers are written with a plain point from one ten-thousandth up to below `10 ^ 16`, whole ones
with a zero after the point, all others with a signed exponent of at least two digits. -/
def DecimalNotation.document : DecimalNotation where
  leastPositional := -4
  endPositional := 16
  nan := "NaN"
  infinity := "Infinity"
  places := none
  pointed := false
  signedZero := true

/-- How numbers are written in messages. -/
def DecimalNotation.message : DecimalNotation :=
  { DecimalNotation.document with nan := "nan", infinity := "inf" }

/-- Numbers are rounded to fifteen digits, and have a point in every form. -/
def DecimalNotation.rounded : DecimalNotation where
  leastPositional := -4
  endPositional := 15
  nan := "NaN"
  infinity := "Inf"
  places := some 15
  pointed := true
  signedZero := false

namespace DecimalNotation

/-- Digits with a plain point; the first digit has the exponent `k`. -/
def positional (ds : List Char) (k : Int) : List Char :=
  if k < 0 then '0' :: '.' :: List.replicate (-k - 1).toNat '0' ++ ds
  else
    let whole := k.toNat + 1
    if ds.length ≤ whole then ds ++ List.replicate (whole - ds.length) '0' ++ ['.', '0']
    else ds.take whole ++ '.' :: ds.drop whole

/-- Digits with an exponent. -/
def scientific (style : DecimalNotation) (ds : List Char) (k : Int) : List Char :=
  let exponent := Nat.toDigits 10 k.natAbs
  let padded := if exponent.length < 2 then '0' :: exponent else exponent
  let lead := match ds with
    | [] => ['0']
    | [d] => if style.pointed then [d, '.', '0'] else [d]
    | d :: rest => d :: '.' :: rest
  lead ++ 'e' :: (if k < 0 then '-' else '+') :: padded

/-- The text of a number. -/
def write (style : DecimalNotation) (x : Float) : Text :=
  match FloatValue.ofFloat x with
  | .nan => style.nan
  | .infinite negative => if negative then .scalar '-' :: style.infinity else style.infinity
  | .finite negative m q =>
    let body :=
      if m = 0 then ['0', '.', '0']
      else
        let (ds, k) := match style.places with
          | none => Shortest.digits m q
          | some places => Rounded.digits places m q
        if style.leastPositional ≤ k ∧ k < style.endPositional then positional ds k
        else scientific style ds k
    let signed := negative && (style.signedZero || m != 0)
    ((if signed then '-' :: body else body).map CodePoint.scalar)

end DecimalNotation

/-- The value of decimal digits. -/
def digitsValue (ds : List Char) : Nat :=
  ds.foldl (fun n d => n * 10 + (d.toNat - '0'.toNat)) 0

/-- The nearest number to `m * 10 ^ e`, ties to even.  Exponents out of reach are settled first, so
that no huge power is formed. -/
def floatOfDecimal (negative : Bool) (m : Nat) (e : Int) : Float :=
  let size := e + (Nat.toDigits 10 m).length
  let x :=
    if m = 0 ∨ size < -400 then 0.0
    else if 400 < size then 1.0 / 0.0
    else if e < 0 then Float.ofScientific m true (-e).toNat
    else Float.ofScientific m false e.toNat
  if negative then -x else x

end ArticleExport
