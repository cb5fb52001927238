import ArticleExport.Markup.References
import ArticleExport.Text.Basic

/-!
# Character references

An ampersand may begin a reference: a number after `#`, or the longest known name.  What is no
reference stays as it is.
-/

namespace ArticleExport.Markup

/-- The code points that the numbers from `0x80` to `0x9F` mean in a reference. -/
def controlReplacements : List Nat := [
  0x20AC, 0x81, 0x201A, 0x192, 0x201E, 0x2026, 0x2020, 0x2021, 0x2C6, 0x2030, 0x160, 0x2039, 0x152,
  0x8D, 0x17D, 0x8F, 0x90, 0x2018, 0x2019, 0x201C, 0x201D, 0x2022, 0x2013, 0x2014, 0x2DC, 0x2122,
  0x161, 0x203A, 0x153, 0x9D, 0x17E, 0x178]

/-- What a numeric reference stands for.  Numbers of no character give the replacement character. -/
def numberedPoint (n : Nat) : CodePoint :=
  if n = 0 then CodePoint.replacement
  else
    let n := if 0x80 ≤ n ∧ n < 0xA0 then (controlReplacements[n - 0x80]?).getD n else n
    match CodePoint.ofNat? n with
    | some (.scalar c) => .scalar c
    | _ => CodePoint.replacement

/-- The value of a digit in a base of at most sixteen. -/
def digitIn? (base : Nat) : CodePoint → Option Nat
  | .scalar c =>
    let v :=
      if '0' ≤ c ∧ c ≤ '9' then c.toNat - '0'.toNat
      else if 'a' ≤ c ∧ c ≤ 'f' then c.toNat - 'a'.toNat + 10
      else if 'A' ≤ c ∧ c ≤ 'F' then c.toNat - 'A'.toNat + 10
      else base
    if v < base then some v else none
  | .surrogate _ => none

/-- Reads digits: the number of the digits, and their value, which stops growing out of reach. -/
def readDigits (base : Nat) : Text → Nat → Nat → Nat × Nat
  | [], count, n => (count, n)
  | c :: t, count, n =>
    match digitIn? base c with
    | some d => readDigits base t (count + 1) (min (n * base + d) 0x110000)
    | none => (count, n)

/-- What a reference stands for, and how many code points it takes after the ampersand. -/
abbrev Reference := Text × Nat

/-- Reads a number after `used` code points of its marks; a semicolon behind it belongs to it. -/
def readNumbered (base used : Nat) (t : Text) : Option Reference :=
  let (count, n) := readDigits base t 0 0
  if count = 0 then none
  else
    let semicolon := if (t.drop count).head? = some (.scalar ';') then 1 else 0
    some ([numberedPoint n], used + count + semicolon)

/-- The longer of two names. -/
def longerName (best : Option (Text × List Nat)) (next : Text × List Nat) :
    Option (Text × List Nat) :=
  match best with
  | some b => if b.1.length < next.1.length then some next else some b
  | none => some next

/-- The longest name that begins here. -/
def longestName? (t : Text) : Option (Text × List Nat) :=
  match t with
  | .scalar c :: _ =>
    ((referencesFrom c).filterMap fun e =>
      let name := Text.ofString e.1
      if name.isPrefixOf t then some (name, e.2) else none).foldl longerName none
  | _ => none

/-- Whether a code point right after a name without semicolon keeps it from counting in an attribute. -/
def continuesWord : Option CodePoint → Bool
  | some (.scalar c) => c == '=' || c.isAlphanum
  | _ => false

/-- Reads a name. -/
def readNamed (inAttribute : Bool) (t : Text) : Option Reference :=
  match longestName? t with
  | none => none
  | some (name, points) =>
    let closed := name.getLast? = some (.scalar ';')
    if inAttribute && !closed && continuesWord (t.drop name.length).head? then none
    else some (points.filterMap CodePoint.ofNat?, name.length)

/-- Reads a reference after its ampersand. -/
def readReference (inAttribute : Bool) : Text → Option Reference
  | .scalar '#' :: .scalar 'x' :: t => readNumbered 16 2 t
  | .scalar '#' :: .scalar 'X' :: t => readNumbered 16 2 t
  | .scalar '#' :: t => readNumbered 10 1 t
  | t => readNamed inAttribute t

/-- The text with its references replaced. -/
def decodeReferences (inAttribute : Bool) (t : Text) : Text :=
  go 0 t
where
  /-- Passes over the given number of code points first. -/
  go : Nat → Text → Text
    | _, [] => []
    | skip + 1, _ :: t => go skip t
    | 0, c :: t =>
      if c = .scalar '&' then
        match readReference inAttribute t with
        | some (value, used) => value ++ go used t
        | none => c :: go 0 t
      else c :: go 0 t

end ArticleExport.Markup
