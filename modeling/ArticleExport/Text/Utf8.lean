import ArticleExport.Text.Basic

/-!
# UTF-8

The byte form of texts.  Writing fails on a lone surrogate.  Reading comes in two ways: the strict
one refuses malformed bytes but lets surrogates that were written on their own pass, and the lenient
one shows every longest beginning of a malformed sequence as the replacement character.
-/

namespace ArticleExport

namespace Utf8

/-- The bytes of a number below `0x110000`. -/
def encodeValue (n : Nat) : List UInt8 :=
  if n < 0x80 then [n.toUInt8]
  else if n < 0x800 then [(0xC0 + n / 0x40).toUInt8, (0x80 + n % 0x40).toUInt8]
  else if n < 0x10000 then
    [(0xE0 + n / 0x1000).toUInt8, (0x80 + n / 0x40 % 0x40).toUInt8, (0x80 + n % 0x40).toUInt8]
  else
    [(0xF0 + n / 0x40000).toUInt8, (0x80 + n / 0x1000 % 0x40).toUInt8,
      (0x80 + n / 0x40 % 0x40).toUInt8, (0x80 + n % 0x40).toUInt8]

/-- The bytes of a text; a lone surrogate has none. -/
def encode? : Text → Option (List UInt8)
  | [] => some []
  | .scalar c :: t => (encode? t).map (encodeValue c.toNat ++ ·)
  | .surrogate _ :: _ => none

/-- Exactly the texts without lone surrogates have a byte form. -/
theorem isSome_encode?_iff (t : Text) : (encode? t).isSome ↔ t.IsScalar := by
  induction t with
  | nil => simp [encode?, Text.IsScalar]
  | cons c t ih =>
    cases c <;> simp_all [encode?, Text.IsScalar, CodePoint.isScalar]

/-- What a first byte announces: how many bytes follow it, the range of the second byte, and the
bits that the first one carries. -/
structure Lead where
  /-- How many bytes follow. -/
  more : Nat
  /-- The least second byte. -/
  low : Nat
  /-- The greatest second byte. -/
  high : Nat
  /-- The bits carried by the first byte. -/
  bits : Nat

/-- The reading of a first byte, where it can be one.  With `surrogates` the second byte after
`0xED` may also be that of a surrogate. -/
def lead? (surrogates : Bool) (b : Nat) : Option Lead :=
  if b < 0x80 then some ⟨0, 0x80, 0xBF, b⟩
  else if b < 0xC2 then none
  else if b < 0xE0 then some ⟨1, 0x80, 0xBF, b - 0xC0⟩
  else if b = 0xE0 then some ⟨2, 0xA0, 0xBF, 0⟩
  else if b = 0xED then some ⟨2, 0x80, if surrogates then 0xBF else 0x9F, 0xD⟩
  else if b < 0xF0 then some ⟨2, 0x80, 0xBF, b - 0xE0⟩
  else if b = 0xF0 then some ⟨3, 0x90, 0xBF, 0⟩
  else if b < 0xF4 then some ⟨3, 0x80, 0xBF, b - 0xF0⟩
  else if b = 0xF4 then some ⟨3, 0x80, 0x8F, 4⟩
  else none

/-- Reads `more` further bytes, the first of them between `low` and `high`.  Gives the number read
and the bytes left; the number is missing where a byte does not fit or none is left. -/
def tail (acc low high : Nat) : Nat → List UInt8 → Option Nat × List UInt8
  | 0, bytes => (some acc, bytes)
  | _ + 1, [] => (none, [])
  | more + 1, b :: bytes =>
    if low ≤ b.toNat ∧ b.toNat ≤ high then
      tail (acc * 0x40 + (b.toNat - 0x80)) 0x80 0xBF more bytes
    else (none, b :: bytes)

theorem length_tail_le (acc low high more : Nat) (bytes : List UInt8) :
    (tail acc low high more bytes).2.length ≤ bytes.length := by
  induction more generalizing acc low high bytes with
  | zero => simp [tail]
  | succ more ih =>
    cases bytes with
    | nil => simp [tail]
    | cons b bytes =>
      simp only [tail]
      split
      · exact Nat.le_succ_of_le (ih _ _ _ _)
      · simp

/-- Reads one code point; `none` stands for a malformed beginning, which is passed over. -/
def step (surrogates : Bool) (b : UInt8) (bytes : List UInt8) : Option CodePoint × List UInt8 :=
  match lead? surrogates b.toNat with
  | none => (none, bytes)
  | some l =>
    let (n, rest) := tail l.bits l.low l.high l.more bytes
    (n.bind CodePoint.ofNat?, rest)

theorem length_step_le (surrogates : Bool) (b : UInt8) (bytes : List UInt8) :
    (step surrogates b bytes).2.length ≤ bytes.length := by
  unfold step
  split
  · simp
  · exact length_tail_le _ _ _ _ _

/-- The code points of bytes, `none` for each longest beginning of a malformed sequence. -/
def steps (surrogates : Bool) : List UInt8 → List (Option CodePoint)
  | [] => []
  | b :: bytes =>
    (step surrogates b bytes).1 :: steps surrogates (step surrogates b bytes).2
termination_by bytes => bytes.length
decreasing_by
  have := length_step_le surrogates b bytes
  simp only [List.length_cons]
  omega

/-- The text of bytes, where they are well formed.  Surrogates that were written on their own pass. -/
def decode? (bytes : List UInt8) : Option Text := (steps true bytes).mapM id

/-- The text of bytes, the replacement character standing for what is malformed. -/
def decodeLossy (bytes : List UInt8) : Text :=
  (steps false bytes).map fun c => c.getD CodePoint.replacement

end Utf8

end ArticleExport
