import ArticleExport.Text.Utf8

/-!
# Escapes in addresses

A code point that may not stand in a part of an address is written as the bytes of its UTF-8 form, each as
a percent sign and two hexadecimal digits.  What is written so is ASCII (`isAscii_of_mem_escape?`).
-/

namespace ArticleExport.Address

/-- Whether a code point is a hexadecimal digit. -/
def isHexDigit : CodePoint → Bool
  | .scalar c => c.isDigit || ('a' ≤ c && c ≤ 'f') || ('A' ≤ c && c ≤ 'F')
  | .surrogate _ => false

/-- The value of a hexadecimal digit. -/
def hexValue (c : CodePoint) : Nat :=
  if c.value ≤ 57 then c.value - 48 else if c.value ≤ 70 then c.value - 55 else c.value - 87

/-- The bytes of ASCII text with its escapes replaced. -/
def unescapedBytes : Text → List UInt8
  | .scalar '%' :: a :: b :: t =>
    if isHexDigit a && isHexDigit b then (16 * hexValue a + hexValue b).toUInt8 :: unescapedBytes t
    else 0x25 :: unescapedBytes (a :: b :: t)
  | c :: t => c.value.toUInt8 :: unescapedBytes t
  | [] => []

/-- A text with its escapes replaced.  Each run of ASCII is decoded by itself, and bytes that are no
text are replaced by a mark. -/
def unescaped (t : Text) : Text :=
  go [] t
where
  /-- Reads on with the run of ASCII so far, last first. -/
  go (run : List CodePoint) : Text → Text
    | [] => Utf8.decodeLossy (unescapedBytes run.reverse)
    | c :: t =>
      if c.isAscii then go (c :: run) t
      else Utf8.decodeLossy (unescapedBytes run.reverse) ++ (c :: go [] t)

/-- The last hexadecimal digit of a number. -/
def hexDigit (n : Nat) : CodePoint := .scalar ("0123456789ABCDEF".toList.getD (n % 16) '0')

/-- The escape of a byte. -/
def escapedByte (b : UInt8) : Text := [.scalar '%', hexDigit (b.toNat / 16), hexDigit b.toNat]

/-- Whether a code point may stand anywhere in an address. -/
def isUnreserved : CodePoint → Bool
  | .scalar c => c.isAlphanum || c == '-' || c == '.' || c == '_' || c == '~'
  | .surrogate _ => false

/-- A code point in a part of an address in which the `safe` ones stand for themselves. -/
def escapeOne? (safe : CodePoint → Bool) (c : CodePoint) : Option Text :=
  if c.isAscii && safe c then some [c]
  else (Utf8.encode? [c]).map fun bytes => bytes.flatMap escapedByte

/-- A part of an address; a lone surrogate has no escape. -/
def escape? (safe : CodePoint → Bool) : Text → Option Text
  | [] => some []
  | c :: t => do return (← escapeOne? safe c) ++ (← escape? safe t)

theorem isAscii_hexDigit (n : Nat) : (hexDigit n).isAscii = true := by
  have all : ∀ m ∈ List.range 16, (hexDigit m).isAscii = true := by decide
  have last : hexDigit (n % 16) = hexDigit n := by simp [hexDigit]
  exact last ▸ all (n % 16) (List.mem_range.mpr (Nat.mod_lt n (by decide)))

theorem isAscii_of_mem_escapedByte {b : UInt8} {c : CodePoint} (h : c ∈ escapedByte b) :
    c.isAscii = true := by
  simp only [escapedByte, List.mem_cons, List.not_mem_nil, or_false] at h
  rcases h with h | h | h
  · subst h
    decide
  · subst h
    exact isAscii_hexDigit _
  · subst h
    exact isAscii_hexDigit _

theorem isAscii_of_mem_escapeOne? {safe : CodePoint → Bool} {c x : CodePoint} {t : Text}
    (h : escapeOne? safe c = some t) (hx : x ∈ t) : x.isAscii = true := by
  unfold escapeOne? at h
  split at h
  · next plain =>
    obtain rfl := Option.some.inj h
    obtain rfl := List.mem_singleton.mp hx
    simp only [Bool.and_eq_true] at plain
    exact plain.1
  · obtain ⟨bytes, _, rfl⟩ := Option.map_eq_some_iff.mp h
    obtain ⟨b, _, hb⟩ := List.mem_flatMap.mp hx
    exact isAscii_of_mem_escapedByte hb

/-- Only ASCII is written. -/
theorem isAscii_of_mem_escape? {safe : CodePoint → Bool} {t written : Text}
    (h : escape? safe t = some written) : ∀ c ∈ written, c.isAscii = true := by
  induction t generalizing written with
  | nil =>
    obtain rfl := Option.some.inj h
    simp
  | cons a t ih =>
    cases ha : escapeOne? safe a with
    | none => simp [escape?, ha] at h
    | some first =>
      cases ht : escape? safe t with
      | none => simp [escape?, ha, ht] at h
      | some rest =>
        have same : first ++ rest = written := by simpa [escape?, ha, ht] using h
        subst same
        intro c hc
        rcases List.mem_append.mp hc with hc | hc
        · exact isAscii_of_mem_escapeOne? ha hc
        · exact ih ht c hc

end ArticleExport.Address
