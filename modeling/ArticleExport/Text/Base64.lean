import ArticleExport.Text.Basic

/-!
# Base64

Bytes as text: four digits stand for three bytes.
-/

namespace ArticleExport.Base64

/-- The value of a digit. -/
def digit? : CodePoint → Option Nat
  | .scalar c =>
    if c.isUpper then some (c.toNat - 65)
    else if c.isLower then some (c.toNat - 71)
    else if c.isDigit then some (c.toNat + 4)
    else if c == '+' then some 62
    else if c == '/' then some 63
    else none
  | _ => none

/-- The bytes of digits; the last of them may be fewer than four. -/
def bytes : List Nat → List UInt8
  | a :: b :: c :: d :: rest =>
    let n := ((a * 64 + b) * 64 + c) * 64 + d
    (n / 0x10000).toUInt8 :: (n / 0x100 % 0x100).toUInt8 :: (n % 0x100).toUInt8 :: bytes rest
  | [a, b, c] =>
    let n := (a * 64 + b) * 64 + c
    [(n / 0x400).toUInt8, (n / 4 % 0x100).toUInt8]
  | [a, b] => [((a * 64 + b) / 0x10).toUInt8]
  | _ => []

/-- The bytes of a text; what is no digit counts for nothing. -/
def decode (t : Text) : List UInt8 := bytes (t.filterMap digit?)

end ArticleExport.Base64
