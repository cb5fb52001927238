import ArticleExport.Text.Case
import Mathlib.Data.List.Basic

/-!
# Lower case and ASCII

Putting a text in lower case takes ASCII to ASCII, letter by letter.  The Kelvin sign is the only
code point beyond ASCII of which nothing but ASCII becomes.
-/

namespace ArticleExport

namespace CodePoint

/-- The Kelvin sign, whose lower-case form is the letter k. -/
def kelvin : CodePoint := .scalar '\u212A'

theorem value_injective : Function.Injective value := by
  intro a b h
  cases a with
  | scalar c =>
      cases b with
      | scalar d => exact congrArg scalar (Char.toNat_inj.mp h)
      | surrogate n =>
          have hvalid := c.valid
          simp only [value, Char.toNat, UInt32.isValidChar, Nat.isValidChar] at h hvalid
          omega
  | surrogate m =>
      cases b with
      | scalar d =>
          have hvalid := d.valid
          simp only [value, Char.toNat, UInt32.isValidChar, Nat.isValidChar] at h hvalid
          omega
      | surrogate n =>
          simp only [value] at h
          exact congrArg surrogate (Fin.ext (by omega))

theorem value_of_ofNat? {n : Nat} {c : CodePoint} (h : ofNat? n = some c) : c.value = n := by
  by_cases hvalid : n.isValidChar
  · rw [ofNat?, dif_pos hvalid] at h
    obtain rfl := Option.some.inj h
    rfl
  · by_cases hsurrogate : 0xD800 ≤ n ∧ n < 0xE000
    · rw [ofNat?, dif_neg hvalid, dif_pos hsurrogate] at h
      obtain rfl := Option.some.inj h
      simp only [value]
      omega
    · rw [ofNat?, dif_neg hvalid, dif_neg hsurrogate] at h
      cases h

/-- Beyond ASCII, the Kelvin sign alone goes to ASCII. -/
theorem eq_of_lowerValue_lt {n : Nat} (hn : 0x80 ≤ n) (h : lowerValue n < 0x80) : n = 0x212A := by
  have hruns : ∀ r ∈ lowerRuns, r.last < 0x80 ∨ (r.first = 0x212A ∧ r.last = 0x212A) ∨
      (0x80 : Int) ≤ r.first + r.shift := by decide +kernel
  rw [lowerValue] at h
  split at h
  · rename_i r hr
    have hmem := List.mem_of_find?_eq_some hr
    have hin := List.find?_some hr
    simp only [Bool.and_eq_true, decide_eq_true_eq] at hin
    rcases hruns r hmem with hlast | hkelvin | hshift
    · omega
    · omega
    · have hfirst : (r.first : Int) ≤ n := by omega
      simp only [Int.ofNat_eq_natCast] at h
      omega
  · omega

/-- A code point beyond ASCII goes to one beyond ASCII, unless it is the Kelvin sign. -/
theorem lower_of_not_isAscii {c : CodePoint} (h : ¬c.isAscii) :
    (∀ d ∈ c.lower, d ≠ .scalar '>') ∧ (c = kelvin ∨ ∃ d ∈ c.lower, ¬d.isAscii) := by
  have hvalue : 0x80 ≤ c.value := by
    rw [isAscii, decide_eq_true_iff] at h
    omega
  have hlower : c.lower = if c.value = 0x130 then [.scalar 'i', .scalar '\u0307']
      else [(ofNat? (lowerValue c.value)).getD c] := if_neg h
  rw [hlower]
  split
  · exact ⟨by decide, .inr ⟨.scalar '\u0307', .tail _ (.head _), by decide⟩⟩
  · have hlarge {d : CodePoint} (hd : 0x80 ≤ d.value) :
        (∀ e ∈ [d], e ≠ .scalar '>') ∧ (c = kelvin ∨ ∃ e ∈ [d], ¬e.isAscii) := by
      have hbeyond : ¬d.isAscii := by
        rw [isAscii, decide_eq_true_iff]
        omega
      refine ⟨?_, .inr ⟨d, .head _, hbeyond⟩⟩
      intro e he
      obtain rfl := List.mem_singleton.mp he
      rintro rfl
      exact hbeyond rfl
    cases hnew : ofNat? (lowerValue c.value) with
    | none => exact hlarge hvalue
    | some d =>
        have hd := value_of_ofNat? hnew
        by_cases hsmall : lowerValue c.value < 0x80
        · have hkelvin := eq_of_lowerValue_lt hvalue hsmall
          have hk : d.value = 0x6B := by
            rw [hd, hkelvin]
            decide +kernel
          refine ⟨?_, .inl (value_injective hkelvin)⟩
          intro e he
          obtain rfl := List.mem_singleton.mp he
          rintro rfl
          exact absurd hk (by decide)
        · exact hlarge (by rw [Option.getD_some]; omega)

/-- ASCII is put in lower case letter by letter. -/
theorem lower_of_isAscii {c : CodePoint} (h : c.isAscii) : c.lower = Text.lowerAscii [c] := by
  cases c with
  | scalar x => exact if_pos h
  | surrogate n => exact if_pos h

/-- Putting ASCII in lower case brings no angle bracket. -/
theorem ne_bracket_of_mem_lowerAscii {c d : CodePoint} (hc : c ≠ .scalar '>')
    (hd : d ∈ Text.lowerAscii [c]) :
    d ≠ .scalar '>' := by
  obtain rfl := List.mem_singleton.mp hd
  cases c with
  | surrogate n => exact nofun
  | scalar x =>
      intro h
      have hx := scalar.inj h
      by_cases hletter : x.val ≥ 'A'.val ∧ x.val ≤ 'Z'.val
      · have hvalue : x.toLower.val = x.val + ('a'.val - 'A'.val) :=
          congrArg Char.val (dif_pos hletter)
        have hnumber := congrArg UInt32.toNat (hvalue.symm.trans (congrArg Char.val hx))
        rw [ge_iff_le, UInt32.le_iff_toNat_le, UInt32.le_iff_toNat_le] at hletter
        simp [UInt32.toNat_add] at hnumber hletter
        omega
      · have hsame : x.toLower = x := dif_neg hletter
        exact hc (congrArg scalar (hsame.symm.trans hx))

theorem ne_bracket_of_mem_lower {c d : CodePoint} (hc : c ≠ .scalar '>') (hd : d ∈ c.lower) :
    d ≠ .scalar '>' := by
  by_cases hascii : c.isAscii
  · rw [lower_of_isAscii hascii] at hd
    exact ne_bracket_of_mem_lowerAscii hc hd
  · exact (lower_of_not_isAscii hascii).1 d hd

end CodePoint

namespace Text

/-- What becomes of a code point stands in front of what becomes of those behind it. -/
theorem lower_go_cons (before : List CodePoint) (c : CodePoint) (t : Text) :
    (∃ d, ¬d.isAscii ∧ d ≠ .scalar '>' ∧ lower.go before (c :: t) = d :: lower.go (c :: before) t) ∨
      lower.go before (c :: t) = c.lower ++ lower.go (c :: before) t := by
  rw [lower.go]
  split
  · split
    · exact .inl ⟨_, by decide, by decide, rfl⟩
    · exact .inl ⟨_, by decide, by decide, rfl⟩
  · exact .inr rfl

/-- Lower case brings no angle bracket into a text. -/
theorem ne_bracket_of_mem_lower_go {before : List CodePoint} {t : Text} {d : CodePoint}
    (h : ∀ c ∈ t, c ≠ .scalar '>') (hd : d ∈ lower.go before t) :
    d ≠ .scalar '>' := by
  induction t generalizing before with
  | nil => cases hd
  | cons c t ih =>
      obtain ⟨hc, ht⟩ := List.forall_mem_cons.mp h
      rcases lower_go_cons before c t with ⟨e, -, he, hgo⟩ | hgo
      · rw [hgo] at hd
        rcases List.mem_cons.mp hd with rfl | hrest
        · exact he
        · exact ih ht hrest
      · rw [hgo] at hd
        rcases List.mem_append.mp hd with hhere | hrest
        · exact CodePoint.ne_bracket_of_mem_lower hc hhere
        · exact ih ht hrest

/-- A text without upper-case ASCII letters stays as it is, if ASCII becomes of it and no letter k
can be from a Kelvin sign. -/
theorem lower_go_eq_or_mem {before : List CodePoint} {t : Text}
    (hlowered : ∀ c ∈ t, lowerAscii [c] = [c]) (hascii : ∀ d ∈ lower.go before t, d.isAscii) :
    lower.go before t = t ∨ .scalar 'k' ∈ lower.go before t := by
  induction t generalizing before with
  | nil => exact .inl rfl
  | cons c t ih =>
      obtain ⟨hc, ht⟩ := List.forall_mem_cons.mp hlowered
      rcases lower_go_cons before c t with ⟨e, he, -, hgo⟩ | hgo
      · rw [hgo] at hascii
        exact (he (hascii e (.head _))).elim
      · rw [hgo] at hascii ⊢
        obtain ⟨hhere, hrest⟩ := List.forall_mem_append.mp hascii
        by_cases hown : c.isAscii
        · rw [CodePoint.lower_of_isAscii hown, hc]
          exact (ih ht hrest).imp (congrArg (c :: ·)) (.tail _)
        · rcases (CodePoint.lower_of_not_isAscii hown).2 with rfl | ⟨d, hd, hbeyond⟩
          · have hk : CodePoint.kelvin.lower = [.scalar 'k'] := by decide +kernel
            rw [hk]
            exact .inr (.head _)
          · exact (hbeyond (hhere d hd)).elim

end Text

end ArticleExport
