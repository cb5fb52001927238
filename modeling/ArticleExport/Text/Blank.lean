import ArticleExport.Text.Basic

/-!
# Blank characters

White space as Unicode has it, with the four information separators.  The zero-width space and the
byte order mark are not blank.
-/

namespace ArticleExport

/-- Whether a number lies in one of the ranges, ends included. -/
def inRanges (ranges : List (Nat × Nat)) (n : Nat) : Bool :=
  ranges.any fun r => r.1 ≤ n && n ≤ r.2

namespace CodePoint

/-- The ranges of blank code points. -/
def blankRanges : List (Nat × Nat) := [
  (0x9, 0xd), (0x1c, 0x20), (0x85, 0x85), (0xa0, 0xa0), (0x1680, 0x1680), (0x2000, 0x200a),
  (0x2028, 0x2029), (0x202f, 0x202f), (0x205f, 0x205f), (0x3000, 0x3000)]

/-- Whether a code point is white space. -/
def isBlank (c : CodePoint) : Bool := inRanges blankRanges c.value

example : isBlank '\u00a0' = true ∧ isBlank '\u200b' = false ∧ isBlank '\uFEFF' = false := by decide

end CodePoint

namespace Text

/-- The text without the white space at either end. -/
def strip (t : Text) : Text := trim CodePoint.isBlank t

/-- Whether anything in the text shows. -/
def isVisible (t : Text) : Bool := t.any fun c => !c.isBlank

/-- The words: the longest parts without white space. -/
def words (t : Text) : List Text :=
  go [] t
where
  /-- Reads on with the letters of the current word, last first. -/
  go (word : List CodePoint) : Text → List Text
    | [] => if word.isEmpty then [] else [word.reverse]
    | c :: t =>
      if c.isBlank then if word.isEmpty then go [] t else word.reverse :: go [] t
      else go (c :: word) t

/-- Dropping leaves nothing exactly when everything may be dropped. -/
theorem dropWhile_eq_nil_iff_forall (p : CodePoint → Bool) (t : Text) :
    t.dropWhile p = [] ↔ ∀ c ∈ t, p c = true := by
  induction t with
  | nil => simp
  | cons c t ih => by_cases hc : p c = true <;> simp [hc, ih]

/-- Trimming leaves nothing exactly when everything may be trimmed. -/
theorem trim_eq_nil_iff (p : CodePoint → Bool) (t : Text) :
    trim p t = [] ↔ ∀ c ∈ t, p c = true := by
  unfold trim trimEnd
  rw [List.reverse_eq_nil_iff, dropWhile_eq_nil_iff_forall]
  simp only [List.mem_reverse]
  constructor
  · intro h
    rw [← dropWhile_eq_nil_iff_forall]
    match hd : t.dropWhile p with
    | [] => rfl
    | c :: rest =>
      have hp := h c (by simp [hd])
      have hn : p c = false := by
        have := List.head?_dropWhile_not p t
        rw [hd] at this
        simpa using this
      rw [hp] at hn
      cases hn
  · exact fun h c hc => h c ((List.dropWhile_sublist p).subset hc)

/-- A text shows exactly when something is left after stripping. -/
theorem isVisible_eq_false_iff (t : Text) : t.isVisible = false ↔ t.strip = [] := by
  simp [isVisible, strip, trim_eq_nil_iff]

end Text

end ArticleExport
