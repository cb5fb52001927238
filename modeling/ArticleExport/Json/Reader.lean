import ArticleExport.Failure
import ArticleExport.Json.Basic
import ArticleExport.Number.Decimal
import ArticleExport.Number.Whole
import ArticleExport.Text.Wide

/-!
# Reading JSON

The grammar is the standard one, with the three extra words `NaN`, `Infinity` and `-Infinity`.  A
number is whole unless it has a fraction or an exponent; a whole number has a limited number of digits.
A name that stands twice in an object keeps its first place and its last value.  Two escaped surrogates in
the right order are one character; any other escaped surrogate stands alone.
-/

namespace ArticleExport.Json

/-- What is read at the beginning of a text, and what follows it; or why it cannot be read. -/
abbrev Found (α : Type) := Except Fault (α × Text)

/-- The white space between the parts of JSON. -/
def isGap : CodePoint → Bool
  | .scalar ' ' | .scalar '\n' | .scalar '\r' | .scalar '\t' => true
  | _ => false

/-- The text without the gap at its beginning. -/
def skipGap (t : Text) : Text := t.dropWhile isGap

/-- The value of a hexadecimal digit. -/
def hexDigit? : CodePoint → Option Nat
  | .scalar c =>
    if '0' ≤ c ∧ c ≤ '9' then some (c.toNat - '0'.toNat)
    else if 'a' ≤ c ∧ c ≤ 'f' then some (c.toNat - 'a'.toNat + 10)
    else if 'A' ≤ c ∧ c ≤ 'F' then some (c.toNat - 'A'.toNat + 10)
    else none
  | .surrogate _ => none

/-- The value of four hexadecimal digits. -/
def hexUnit? (a b c d : CodePoint) : Option Nat := do
  return (((← hexDigit? a) * 16 + (← hexDigit? b)) * 16 + (← hexDigit? c)) * 16 + (← hexDigit? d)

/-- The character that two surrogates in the right order stand for. -/
def joinSurrogates? (high low : Nat) : Option CodePoint :=
  if 0xD800 ≤ high ∧ high < 0xDC00 ∧ 0xDC00 ≤ low ∧ low < 0xE000 then
    CodePoint.ofNat? (0x10000 + (high - 0xD800) * 0x400 + (low - 0xDC00))
  else none

/-- What a one-letter escape stands for. -/
def escape? : CodePoint → Option CodePoint
  | .scalar '"' => some '"'
  | .scalar '\\' => some '\\'
  | .scalar '/' => some '/'
  | .scalar 'b' => some '\x08'
  | .scalar 'f' => some '\x0c'
  | .scalar 'n' => some '\n'
  | .scalar 'r' => some '\r'
  | .scalar 't' => some '\t'
  | _ => none

/-- Puts a code point before the text that was read. -/
def before (c : CodePoint) : Option (Text × Text) → Option (Text × Text)
  | some (t, rest) => some (c :: t, rest)
  | none => none

/-- Reads the rest of a string, its closing quote included. -/
def readString : Text → Option (Text × Text)
  | .scalar '"' :: rest => some ([], rest)
  | .scalar '\\' :: .scalar 'u' :: a :: b :: c :: d :: rest =>
    match hexUnit? a b c d with
    | none => none
    | some n =>
      let alone := match CodePoint.ofNat? n with
        | some x => before x (readString rest)
        | none => none
      match rest with
      | .scalar '\\' :: .scalar 'u' :: e :: f :: g :: h :: rest' =>
        match (hexUnit? e f g h).bind (joinSurrogates? n) with
        | some x => before x (readString rest')
        | none => alone
      | _ => alone
  | .scalar '\\' :: e :: rest =>
    match escape? e with
    | some x => before x (readString rest)
    | none => none
  | c :: rest => if c.value < 0x20 || c == .scalar '\\' then none else before c (readString rest)
  | [] => none

/-- The digits at the beginning of a text, and what follows them. -/
def spanDigits : Text → List Char × Text
  | .scalar c :: t => if c.isDigit then let (ds, rest) := spanDigits t; (c :: ds, rest)
    else ([], .scalar c :: t)
  | t => ([], t)

/-- Reads the digits of a fraction after its point; without digits there is no fraction. -/
def readFraction : Text → List Char × Text
  | .scalar '.' :: t =>
    match spanDigits t with
    | ([], _) => ([], .scalar '.' :: t)
    | (ds, rest) => (ds, rest)
  | t => ([], t)

/-- Reads an exponent; without digits there is none. -/
def readExponent (t : Text) : Option Int × Text :=
  match t with
  | .scalar e :: t' =>
    if e = 'e' ∨ e = 'E' then
      let (negative, digits) := match t' with
        | .scalar '-' :: r => (true, r)
        | .scalar '+' :: r => (false, r)
        | r => (false, r)
      match spanDigits digits with
      | ([], _) => (none, t)
      | (ds, rest) =>
        let n := digitsValue ds
        (some (if negative then -n else n), rest)
    else (none, t)
  | _ => (none, t)

/-- Reads the digits of a number after its sign. -/
def readUnsigned (negative : Bool) (t : Text) : Found Json :=
  let (whole, afterWhole) := match t with
    | .scalar '0' :: r => (['0'], r)
    | _ => spanDigits t
  if whole.isEmpty then .error .notJson
  else
    let (fraction, afterFraction) := readFraction afterWhole
    let (exponent, rest) := readExponent afterFraction
    if fraction.isEmpty ∧ exponent.isNone then
      if digitLimit < whole.length then .error .oversizedJson
      else
        let n : Int := digitsValue whole
        .ok (int (if negative then -n else n), rest)
    else
      let e := exponent.getD 0 - fraction.length
      .ok (float (floatOfDecimal negative (digitsValue (whole ++ fraction)) e), rest)

/-- Reads a number. -/
def readNumber : Text → Found Json
  | .scalar '-' :: t => readUnsigned true t
  | t => readUnsigned false t

/-- The words that are values. -/
def words : List (Text × Json) :=
  [("null", null), ("true", bool true), ("false", bool false), ("NaN", float (0.0 / 0.0)),
    ("Infinity", float (1.0 / 0.0)), ("-Infinity", float (-1.0 / 0.0))]

/-- Reads one of the words. -/
def readWord (t : Text) : Option (Json × Text) :=
  words.findSome? fun (word, value) => (Text.dropPrefix? word t).map (value, ·)

mutual

/-- Reads a value that begins here.  The first argument bounds the number of steps. -/
def readValue : Nat → Text → Found Json
  | 0, _ => .error .notJson
  | fuel + 1, t =>
    match t with
    | .scalar '"' :: r =>
      match readString r with
      | some (s, rest) => .ok (str s, rest)
      | none => .error .notJson
    | .scalar '[' :: r =>
      match skipGap r with
      | .scalar ']' :: rest => .ok (arr [], rest)
      | r' => (readItems fuel r').map fun (items, rest) => (arr items, rest)
    | .scalar '\x7b' :: r =>
      match skipGap r with
      | .scalar '\x7d' :: rest => .ok (obj [], rest)
      | r' => (readEntries fuel r').map fun (es, rest) => (obj (Table.ofEntries es), rest)
    | _ =>
      match readWord t with
      | some found => .ok found
      | none => readNumber t

/-- Reads the items of a list and its closing bracket. -/
def readItems : Nat → Text → Found (List Json)
  | 0, _ => .error .notJson
  | fuel + 1, t =>
    match readValue fuel t with
    | .error f => .error f
    | .ok (v, r) =>
      match skipGap r with
      | .scalar ']' :: rest => .ok ([v], rest)
      | .scalar ',' :: r' =>
        (readItems fuel (skipGap r')).map fun (vs, rest) => (v :: vs, rest)
      | _ => .error .notJson

/-- Reads the entries of an object and its closing brace. -/
def readEntries : Nat → Text → Found (List (Text × Json))
  | 0, _ => .error .notJson
  | fuel + 1, t =>
    match t with
    | .scalar '"' :: r =>
      match readString r with
      | none => .error .notJson
      | some (name, r') =>
        match skipGap r' with
        | .scalar ':' :: r'' =>
          match readValue fuel (skipGap r'') with
          | .error f => .error f
          | .ok (v, r) =>
            match skipGap r with
            | .scalar '\x7d' :: rest => .ok ([(name, v)], rest)
            | .scalar ',' :: r' =>
              (readEntries fuel (skipGap r')).map fun (es, rest) => ((name, v) :: es, rest)
            | _ => .error .notJson
        | _ => .error .notJson
    | _ => .error .notJson

end

/-- The value of a JSON text, or why it cannot be read. -/
def read (t : Text) : Except Fault Json :=
  match readValue (t.length + 1) (skipGap t) with
  | .ok (v, rest) => if (skipGap rest).isEmpty then .ok v else .error .notJson
  | .error f => .error f

/-- The value of a JSON text; none where the text cannot be read. -/
def parse? (t : Text) : Option Json := (read t).toOption

/-- The value of bytes that hold JSON in any of the Unicode encodings. -/
def parseBytes? (bytes : List UInt8) : Option Json :=
  let (encoding, content) := Encoding.detect bytes
  (encoding.decode? content).bind parse?

end ArticleExport.Json
