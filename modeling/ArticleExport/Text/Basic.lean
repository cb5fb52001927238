/-!
# Text

The texts that travel through an export: titles, markup, JSON strings, identifiers.  JSON escapes
can name half of a surrogate pair, so a text is a list of code points in which a surrogate may stand
without its partner.  Such a text is a legitimate value everywhere; only turning it into bytes fails.
-/

namespace ArticleExport

/-- One position of a text: a character, or a surrogate that stands alone. -/
inductive CodePoint where
  /-- An ordinary character. -/
  | scalar (c : Char)
  /-- The surrogate `0xD800 + n`, without its partner. -/
  | surrogate (n : Fin 0x800)
deriving DecidableEq, Inhabited, Repr

namespace CodePoint

instance : Coe Char CodePoint := ⟨scalar⟩

/-- The number of a code point. -/
def value : CodePoint → Nat
  | scalar c => c.toNat
  | surrogate n => 0xD800 + n.val

/-- The code point of a number, where the number is one. -/
def ofNat? (n : Nat) : Option CodePoint :=
  if h : n.isValidChar then some (scalar (Char.ofNatAux n h))
  else if h : 0xD800 ≤ n ∧ n < 0xE000 then some (surrogate ⟨n - 0xD800, by omega⟩)
  else none

/-- The replacement character, shown in place of bytes that hold no text. -/
def replacement : CodePoint := scalar '\uFFFD'

/-- Whether a code point can be written as bytes. -/
def isScalar : CodePoint → Bool
  | scalar _ => true
  | surrogate _ => false

/-- Whether a code point is an ASCII character. -/
def isAscii (c : CodePoint) : Bool := c.value < 0x80

end CodePoint

/-- A text, code point by code point. -/
abbrev Text := List CodePoint

namespace Text

/-- The text of a string. -/
def ofString (s : String) : Text := s.toList.map CodePoint.scalar

instance : Coe String Text := ⟨ofString⟩

/-- A text without lone surrogates: one that has a byte form. -/
def IsScalar (t : Text) : Prop := ∀ c ∈ t, c.isScalar = true

instance (t : Text) : Decidable t.IsScalar := by unfold IsScalar; infer_instance

/-- The string of a text, with every lone surrogate shown as the replacement character. -/
def toStringLossy (t : Text) : String :=
  String.ofList (t.map fun
    | .scalar c => c
    | .surrogate _ => '\uFFFD')

/-- Texts in the order of their code points, a proper beginning first. -/
def lt : Text → Text → Bool
  | _, [] => false
  | [], _ :: _ => true
  | a :: s, b :: t => a.value < b.value || (a.value == b.value && lt s t)

/-- At most, in the order of `lt`. -/
def le (s t : Text) : Bool := !lt t s

/-- The texts in ascending order; equal ones keep their places. -/
def sorted (ts : List Text) : List Text := ts.mergeSort le

/-- The text without its longest ending of code points that satisfy `p`. -/
def trimEnd (p : CodePoint → Bool) (t : Text) : Text :=
  (t.reverse.dropWhile p).reverse

/-- The text without the code points that satisfy `p` at either end. -/
def trim (p : CodePoint → Bool) (t : Text) : Text :=
  trimEnd p (t.dropWhile p)

/-- What follows `start`, where the text begins with it. -/
def dropPrefix? (start : Text) : Text → Option Text :=
  go start
where
  /-- Walks both texts together. -/
  go : Text → Text → Option Text
    | [], t => some t
    | _ :: _, [] => none
    | a :: s, b :: t => if a = b then go s t else none

/-- The parts between the occurrences of a code point; there is always at least one. -/
def splitOn (sep : CodePoint) : Text → List Text
  | [] => [[]]
  | c :: t =>
    if c = sep then [] :: splitOn sep t
    else match splitOn sep t with
      | [] => [[c]]
      | part :: parts => (c :: part) :: parts

/-- What stands before the first occurrence of a code point, and after it where there is one. -/
def cutAt (sep : CodePoint) : Text → Text × Option Text
  | [] => ([], none)
  | c :: t =>
    if c = sep then ([], some t)
    else let (before, after) := cutAt sep t; (c :: before, after)

/-- What stands before and after the last occurrence of a code point, where there is one. -/
def cutAtLast? (sep : CodePoint) : Text → Option (Text × Text)
  | [] => none
  | c :: t =>
    match cutAtLast? sep t with
    | some (before, after) => some (c :: before, after)
    | none => if c = sep then some ([], t) else none

/-- The texts one after the other, with `sep` between neighbours. -/
def join (sep : Text) : List Text → Text
  | [] => []
  | [t] => t
  | t :: ts => t ++ sep ++ join sep ts

/-- The text with one code point replaced by a text, everywhere. -/
def replace (c : CodePoint) (new : Text) (t : Text) : Text :=
  t.flatMap fun x => if x = c then new else [x]

/-- A lower-case letter for each upper-case ASCII letter. -/
def lowerAscii (t : Text) : Text :=
  t.map fun
    | .scalar c => .scalar c.toLower
    | other => other

/-- The decimal digits of a number. -/
def ofNat (n : Nat) : Text := (Nat.toDigits 10 n).map CodePoint.scalar

/-- The decimal digits of an integer, after a minus sign where it is negative. -/
def ofInt : Int → Text
  | .ofNat n => ofNat n
  | .negSucc n => .scalar '-' :: ofNat (n + 1)

@[simp] theorem ofString_append (s t : String) : ofString (s ++ t) = ofString s ++ ofString t := by
  simp [ofString]

@[simp] theorem trim_nil (p : CodePoint → Bool) : trim p [] = [] := rfl

end Text

end ArticleExport
