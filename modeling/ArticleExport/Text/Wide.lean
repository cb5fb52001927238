import ArticleExport.Text.Utf8

/-!
# Wide encodings and their detection

Bytes that hold JSON may be UTF-8, UTF-16 or UTF-32, with or without a byte order mark.  Without a
mark the encoding is told from the zero bytes around the first character, which in JSON is ASCII.
-/

namespace ArticleExport

/-- How bytes stand for text. -/
inductive Encoding where
  | utf8
  | utf16 (bigEndian : Bool)
  | utf32 (bigEndian : Bool)
deriving DecidableEq, Repr

namespace Encoding

/-- The number of bytes in the given order. -/
def number (bigEndian : Bool) (bytes : List UInt8) : Nat :=
  (if bigEndian then bytes else bytes.reverse).foldl (fun n b => n * 0x100 + b.toNat) 0

/-- The units of `width` bytes; a rest that is too short spoils all. -/
def units? (bigEndian : Bool) : Nat → List UInt8 → Option (List Nat)
  | 2, a :: b :: rest => (units? bigEndian 2 rest).map (number bigEndian [a, b] :: ·)
  | 4, a :: b :: c :: d :: rest => (units? bigEndian 4 rest).map (number bigEndian [a, b, c, d] :: ·)
  | _, [] => some []
  | _, _ => none

/-- The code points of 16-bit units: two surrogates in the right order are one, others stand alone. -/
def pairUp : List Nat → Option Text
  | [] => some []
  | [n] => do return [← CodePoint.ofNat? n]
  | high :: low :: rest =>
    if 0xD800 ≤ high ∧ high < 0xDC00 ∧ 0xDC00 ≤ low ∧ low < 0xE000 then do
      let c ← CodePoint.ofNat? (0x10000 + (high - 0xD800) * 0x400 + (low - 0xDC00))
      return c :: (← pairUp rest)
    else do
      let c ← CodePoint.ofNat? high
      return c :: (← pairUp (low :: rest))
termination_by units => units.length

/-- The text of bytes in an encoding, where they are well formed. -/
def decode? : Encoding → List UInt8 → Option Text
  | utf8, bytes => Utf8.decode? bytes
  | utf16 bigEndian, bytes => units? bigEndian 2 bytes >>= pairUp
  | utf32 bigEndian, bytes => units? bigEndian 4 bytes >>= List.mapM CodePoint.ofNat?

/-- The encoding of bytes that hold JSON, and the bytes after the byte order mark. -/
def detect : List UInt8 → Encoding × List UInt8
  | 0x00 :: 0x00 :: 0xFE :: 0xFF :: rest => (utf32 true, rest)
  | 0xFF :: 0xFE :: 0x00 :: 0x00 :: rest => (utf32 false, rest)
  | 0xFE :: 0xFF :: rest => (utf16 true, rest)
  | 0xFF :: 0xFE :: rest => (utf16 false, rest)
  | 0xEF :: 0xBB :: 0xBF :: rest => (utf8, rest)
  | bytes =>
    let encoding :=
      match bytes with
      | a :: b :: c :: d :: _ =>
        if a = 0 then if b = 0 then utf32 true else utf16 true
        else if b = 0 then if c = 0 ∧ d = 0 then utf32 false else utf16 false
        else utf8
      | [a, b] => if a = 0 then utf16 true else if b = 0 then utf16 false else utf8
      | _ => utf8
    (encoding, bytes)

end Encoding

end ArticleExport
