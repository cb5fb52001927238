import ArticleExport.Failure
import ArticleExport.Json.Basic
import ArticleExport.Number.Binary
import ArticleExport.Text.Blank

/-!
# Values of fields

Fields of settings and records come as JSON values or as texts.  A truth value or a whole number may be
written in several ways; what cannot be read is reported as a problem.
-/

namespace ArticleExport.Conversion

/-- A text. -/
def text : Json → Except Problem Text
  | .str t => if t.IsScalar then .ok t else .error .notEncodable
  | _ => .error .notText

/-- A text that may be null. -/
def textOrNull : Json → Except Problem (Option Text)
  | .null => .ok none
  | v => (text v).map some

/-- The texts for true. -/
def trueWords : List Text := ["1", "t", "y", "on", "yes", "true"]

/-- The texts for false. -/
def falseWords : List Text := ["0", "f", "n", "no", "off", "false"]

/-- The largest number that fits into 64 bits. -/
def maxWord : Int := 9223372036854775807

/-- The truth value of zero and one; a number that does not fit into 64 bits is none at all. -/
def boolOfInt (n : Int) : Except Problem Bool :=
  if n = 0 then .ok false else if n = 1 then .ok true
  else if -maxWord - 1 ≤ n && n ≤ maxWord then .error .unknownBool
  else .error .notBool

/-- A truth value, or a word or number for one. -/
def bool : Json → Except Problem Bool
  | .bool b => .ok b
  | .str t =>
    if !(decide t.IsScalar) then .error .notEncodable
    else if trueWords.contains t.lowerAscii then .ok true
    else if falseWords.contains t.lowerAscii then .ok false
    else .error .unknownBool
  | .int n => boolOfInt n
  | .float x =>
    match integral? x with
    | some n => if n.natAbs ≤ maxWord.natAbs then boolOfInt n else .error .notBool
    | none => .error .notBool
  | _ => .error .notBool

/-- Whether a code point is white space around a number. -/
def isMargin (c : CodePoint) : Bool := c.isBlank && !(0x1C ≤ c.value && c.value ≤ 0x1F)

/-- Whether a code point is a decimal digit. -/
def isDigit : CodePoint → Bool
  | .scalar c => c.isDigit
  | .surrogate _ => false

/-- The number of a text of digits. -/
def natOfDigits (t : Text) : Nat := t.foldl (fun n c => 10 * n + (c.value - 48)) 0

/-- The number of a text of digits without needless zeros. -/
def plainNat? (t : Text) : Option Nat :=
  if t.isEmpty || !t.all isDigit || (1 < t.length && t.head? == some (.scalar '0')) then none
  else some (natOfDigits t)

/-- The number of a text of digits without needless zeros, perhaps behind a minus sign. -/
def plainInt? : Text → Option Int
  | .scalar '-' :: t => (plainNat? t).map fun n => -(n : Int)
  | t => (plainNat? t).map fun n => (n : Int)

/-- The text without its leading zeros and the underscores among them: from its next digit on, or from a
minus sign there.  Before a decimal point, and where nothing else follows, the last of them stays. -/
def dropZeros (t : Text) : Option Text :=
  match t with
  | .scalar '0' :: _ =>
    let isLeading (c : CodePoint) : Bool := c == .scalar '0' || c == .scalar '_'
    let last := (t.takeWhile isLeading).drop ((t.takeWhile isLeading).length - 1)
    match t.dropWhile isLeading with
    | [] => some last
    | .scalar '.' :: rest => some (last ++ (.scalar '.' :: rest))
    | c :: rest => if isDigit c || c == .scalar '-' then some (c :: rest) else none
  | c :: _ => if isDigit c then some t else none
  | [] => none

/-- The text without a fraction of zeros, of which there has to be one. -/
def dropFraction (t : Text) : Text :=
  match Text.cutAt '.' t with
  | (whole, some fraction) =>
    if !fraction.isEmpty && fraction.all (· == .scalar '0') then whole else t
  | (_, none) => t

/-- Whether two underscores stand side by side. -/
def hasDoubleUnderscore : Text → Bool
  | .scalar '_' :: .scalar '_' :: _ => true
  | _ :: t => hasDoubleUnderscore t
  | [] => false

/-- The text without underscores between digits. -/
def dropUnderscores (t : Text) : Text :=
  if t.head? == some (.scalar '_') || t.getLast? == some (.scalar '_') || hasDoubleUnderscore t then t
  else t.filter (· != .scalar '_')

/-- The text of a number brought into its plain form. -/
def cleaned (t : Text) : Option Text :=
  let plain (t : Text) : Option Text := (dropZeros t).map fun t => dropUnderscores (dropFraction t)
  match Text.trim isMargin t with
  | .scalar '+' :: t => plain t
  | .scalar '-' :: t => (plain t).map (.scalar '-' :: ·)
  | t => plain t

/-- The length of the longest number that is read, its sign counted. -/
def maxDigits : Nat := 4300

/-- Whether a text begins as a number in plain form that is too long. -/
def isOversized (t : Text) : Bool :=
  let digits := if t.head? == some (.scalar '-') then t.tail else t
  let sign := t.length - digits.length
  digits.head? != some (.scalar '0') && maxDigits < sign + (digits.takeWhile isDigit).length

/-- The whole number of a text: it may have white space around it, a sign, leading zeros, a fraction
of zeros, and single underscores between its digits. -/
def intOfText (t : Text) : Except Problem Int :=
  if isOversized t then .error .oversizedInt
  else match plainInt? t with
    | some n => .ok n
    | none =>
      match cleaned t with
      | some t =>
        if t.length ≤ maxDigits then
          match plainInt? t with
          | some n => .ok n
          | none => .error .unreadableInt
        else .error .unreadableInt
      | none => .error .unreadableInt

/-- A whole number, or a text or number with the value of one. -/
def int : Json → Except Problem Int
  | .int n => .ok n
  | .bool b => .ok (if b then 1 else 0)
  | .float x =>
    match integral? x with
    | some n => if n.natAbs ≤ maxWord.natAbs then .ok n else .error .oversizedInt
    | none =>
      match truncate? x with
      | some _ => .error .fractionalInt
      | none => .error .notFinite
  | .str t => if t.IsScalar then intOfText t else .error .notEncodable
  | _ => .error .notInt

end ArticleExport.Conversion
