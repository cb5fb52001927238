import ArticleExport.Failure.Fault
import ArticleExport.Text.Blank

/-!
# Whole numbers in texts

The whole number that a text stands for: decimal digits of any one script or of several, a sign in front,
single underscores between digits, and white space around.
-/

namespace ArticleExport

/-- The largest number of digits with which a whole number is read or written. -/
def digitLimit : Nat := 4300

/-- Whether a number has few enough digits to be read and written. -/
def hasFewDigits (n : Nat) : Bool := (Nat.toDigits 10 n).length ≤ digitLimit

/-- The first digits of the scripts that have decimal digits. -/
def zeroDigits : List Nat :=
  [0x30, 0x660, 0x6F0, 0x7C0, 0x966, 0x9E6, 0xA66, 0xAE6, 0xB66, 0xBE6, 0xC66, 0xCE6, 0xD66, 0xDE6,
    0xE50, 0xED0, 0xF20, 0x1040, 0x1090, 0x17E0, 0x1810, 0x1946, 0x19D0, 0x1A80, 0x1A90, 0x1B50,
    0x1BB0, 0x1C40, 0x1C50, 0xA620, 0xA8D0, 0xA900, 0xA9D0, 0xA9F0, 0xAA50, 0xABF0, 0xFF10,
    0x104A0, 0x10D30, 0x11066, 0x110F0, 0x11136, 0x111D0, 0x112F0, 0x11450, 0x114D0, 0x11650,
    0x116C0, 0x11730, 0x118E0, 0x11950, 0x11C50, 0x11D50, 0x11DA0, 0x16A60, 0x16AC0, 0x16B50,
    0x1D7CE, 0x1D7D8, 0x1D7E2, 0x1D7EC, 0x1D7F6, 0x1E140, 0x1E2F0, 0x1E950, 0x1FBF0]

/-- The value of a decimal digit. -/
def digitValue? (c : CodePoint) : Option Nat :=
  (zeroDigits.find? fun first => first ≤ c.value && c.value ≤ first + 9).map (c.value - ·)

/-- The number of digits with single underscores between them. -/
def digitsValue? (acc : Nat) : Text → Option Nat
  | [] => none
  | [c] => (digitValue? c).map fun d => 10 * acc + d
  | c :: .scalar '_' :: t =>
    match digitValue? c with
    | some d => digitsValue? (10 * acc + d) t
    | none => none
  | c :: t =>
    match digitValue? c with
    | some d => digitsValue? (10 * acc + d) t
    | none => none

/-- Whether a code point may stand around a number; the information separators may not. -/
def isNumberMargin (c : CodePoint) : Bool := c.isBlank && !(0x1C ≤ c.value && c.value ≤ 0x1F)

/-- The whole number of a text; it may not have too many digits. -/
def wholeOfText (t : Text) : Except Fault Int :=
  let (negative, digits) := match Text.trim isNumberMargin t with
    | .scalar '-' :: t => (true, t)
    | .scalar '+' :: t => (false, t)
    | t => (false, t)
  let count := (digits.filter (· != .scalar '_')).length
  match digitsValue? 0 digits with
  | none => .error (.unreadableNumber t)
  | some n =>
    if digitLimit < count then .error (.longNumber count)
    else .ok (if negative then -(n : Int) else n)

end ArticleExport
