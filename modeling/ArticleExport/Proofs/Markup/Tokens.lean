import ArticleExport.Markup.Token
import ArticleExport.Proofs.Table
import ArticleExport.Proofs.Text.Case
import Mathlib.Data.List.TakeWhile

/-!
# The names in tokens

The names that are read from start tags, those of elements and those of attributes, hold no closing
bracket and no upper-case ASCII letter, and the name of an element begins with a letter.
-/

namespace ArticleExport.Markup

/-- Whether a name holds neither a closing bracket nor an upper-case ASCII letter. -/
def IsName (name : Text) : Prop := ∀ c ∈ name, c ≠ .scalar '>' ∧ Text.lowerAscii [c] = [c]

/-- Whether a name and attributes are those of a start tag. -/
structure IsTag (tag : Text) (attributes : List (Text × Text)) : Prop where
  name : IsName tag
  letter : ∃ c rest, tag = c :: rest ∧ isLetter c = true
  attributes : ∀ a ∈ attributes, IsName a.1

/-! ## Names -/

theorem mem_of_mem_clipName {room : Nat} {t : Text} {c : CodePoint} (h : c ∈ clipName room t) :
    c ∈ t := by
  induction t generalizing room with
  | nil => cases h
  | cons d t ih =>
      rw [clipName] at h
      split at h
      · rcases List.mem_cons.mp h with rfl | hrest
        · exact .head _
        · exact .tail _ (ih hrest)
      · exact .tail _ (ih h)

theorem toLower_toLower (c : Char) : c.toLower.toLower = c.toLower := by
  by_cases h : c.val ≥ 'A'.val ∧ c.val ≤ 'Z'.val
  · have hlowered : ¬(c.toLower.val ≥ 'A'.val ∧ c.toLower.val ≤ 'Z'.val) := by
      have hvalue : c.toLower.val = c.val + ('a'.val - 'A'.val) := congrArg Char.val (dif_pos h)
      rw [hvalue]
      rw [ge_iff_le, UInt32.le_iff_toNat_le, UInt32.le_iff_toNat_le] at h ⊢
      simp [UInt32.toNat_add] at h ⊢
      omega
    exact dif_neg hlowered
  · have hsame : c.toLower = c := dif_neg h
    rw [hsame, hsame]

theorem lowerAscii_of_mem_lowerAscii {t : Text} {c : CodePoint} (h : c ∈ Text.lowerAscii t) :
    Text.lowerAscii [c] = [c] := by
  obtain ⟨d, -, rfl⟩ := List.mem_map.mp h
  cases d with
  | scalar x => exact congrArg (fun y => [CodePoint.scalar y]) (toLower_toLower x)
  | surrogate n => rfl

/-- What is written without a closing bracket is read as a name. -/
theorem isName_nameOf {written : Text} (h : ∀ c ∈ written, c ≠ .scalar '>') :
    IsName (nameOf written) := by
  intro c hc
  have hlowered := mem_of_mem_clipName hc
  refine ⟨?_, lowerAscii_of_mem_lowerAscii hlowered⟩
  obtain ⟨d, hd, hdc⟩ := List.mem_map.mp hlowered
  exact CodePoint.ne_bracket_of_mem_lowerAscii (h d hd) (List.mem_singleton.mpr hdc.symm)

theorem toNat_lt_of_isAlpha {c : Char} (h : c.isAlpha) : c.toNat < 0x80 := by
  rcases (Bool.or_eq_true _ _).mp h with hupper | hlower
  · have hlast := (of_decide_eq_true hupper).2
    exact Nat.lt_of_le_of_lt (UInt32.le_iff_toNat_le.mp hlast) (by decide)
  · have hlast := of_decide_eq_true ((Bool.and_eq_true _ _).mp hlower).2
    exact Nat.lt_of_le_of_lt (UInt32.le_iff_toNat_le.mp hlast) (by decide)

/-- What holds of the ASCII letters, tried one after the other, holds of all letters. -/
theorem forall_isAlpha {p : Char → Prop} (h : ∀ n < 0x80, (Char.ofNat n).isAlpha → p (Char.ofNat n))
    {c : Char} (hc : c.isAlpha) :
    p c := by
  have hown := h c.toNat (toNat_lt_of_isAlpha hc)
  rw [Char.ofNat_toNat] at hown
  exact hown hc

theorem isAlpha_toLower {c : Char} (h : c.isAlpha) : c.toLower.isAlpha :=
  forall_isAlpha (p := fun x => x.toLower.isAlpha) (by decide) h

theorem endsName_of_isLetter {c : CodePoint} (h : isLetter c) : endsName c = false := by
  cases c with
  | scalar x => exact forall_isAlpha (p := fun x => endsName (.scalar x) = false) (by decide) h
  | surrogate n => rfl

/-- A name that is written with a letter at the front is read with one. -/
theorem exists_nameOf_cons {c : CodePoint} (h : isLetter c) (written : Text) :
    ∃ d rest, nameOf (c :: written) = d :: rest ∧ isLetter d = true := by
  cases c with
  | surrogate n => cases h
  | scalar x =>
      have hsmall : (CodePoint.scalar x.toLower).value < 0x80 :=
        toNat_lt_of_isAlpha (isAlpha_toLower h)
      have hroom : (Utf8.encodeValue (CodePoint.scalar x.toLower).value).length ≤ nameRoom := by
        rw [Utf8.encodeValue, if_pos hsmall]
        exact Nat.le_of_ble_eq_true rfl
      rw [nameOf, Text.lowerAscii, List.map_cons, clipName]
      exact ⟨.scalar x.toLower, _, if_pos hroom, isAlpha_toLower h⟩

/-! ## Start tags -/

theorem ne_bracket_of_mem_takeWhile {p : CodePoint → Bool} {t : Text}
    (hp : p (.scalar '>') = false) {c : CodePoint} (h : c ∈ t.takeWhile p) :
    c ≠ .scalar '>' := by
  rintro rfl
  have hc := List.mem_takeWhile_imp h
  rw [hp] at hc
  cases hc

theorem isName_of_mem_setIfAbsent {found : List (Text × Text)} {name : Text}
    (hfound : ∀ a ∈ found, IsName a.1) (hname : IsName name) (value : Text) :
    ∀ a ∈ Table.setIfAbsent name value found, IsName a.1 := by
  rw [Table.setIfAbsent]
  split
  · exact hfound
  · exact List.forall_mem_append.mpr ⟨hfound, List.forall_mem_singleton.mpr hname⟩

theorem isName_of_readAttributes {found : List (Text × Text)} {fuel : Nat} {t : Text}
    (hfound : ∀ a ∈ found, IsName a.1) {attributes : List (Text × Text)} {closed : Bool}
    {rest : Text} (h : readAttributes found fuel t = some (attributes, closed, rest)) :
    ∀ a ∈ attributes, IsName a.1 := by
  have hname {c : CodePoint} {t : Text} (hc : c = .scalar '>' → False) :
      IsName (nameOf (c :: t.takeWhile fun c => !(endsName c || c == .scalar '='))) :=
    isName_nameOf (List.forall_mem_cons.mpr
      ⟨hc, fun _ hd => ne_bracket_of_mem_takeWhile (by decide) hd⟩)
  fun_induction readAttributes found fuel t with
  | case1 => cases h
  | case2 => cases h
  | case3 =>
      obtain ⟨rfl, -⟩ := Prod.mk.inj (Option.some.inj h)
      exact hfound
  | case4 =>
      obtain ⟨rfl, -⟩ := Prod.mk.inj (Option.some.inj h)
      exact hfound
  | case5 _ _ _ _ _ _ ih => exact ih hfound h
  | case6 _ _ _ _ _ hc _ _ _ _ _ _ _ _ value _ _ ih =>
      exact ih (isName_of_mem_setIfAbsent hfound (hname hc) value) h
  | case7 => cases h
  | case8 _ _ _ _ _ hc _ _ _ _ _ _ _ ih =>
      exact ih (isName_of_mem_setIfAbsent hfound (hname hc) _) h

/-- What is read as a tag has the names of one. -/
theorem isTag_of_readTag {c : CodePoint} (hc : isLetter c) {t tag : Text}
    {attributes : List (Text × Text)} {closed : Bool} {rest : Text}
    (h : readTag (c :: t) = some (tag, attributes, closed, rest)) :
    IsTag tag attributes := by
  obtain ⟨⟨attributes', closed', rest'⟩, hread, heq⟩ := Option.map_eq_some_iff.mp h
  obtain ⟨rfl, hmore⟩ := Prod.mk.inj heq
  obtain ⟨rfl, -⟩ := Prod.mk.inj hmore
  refine ⟨isName_nameOf fun _ hd => ne_bracket_of_mem_takeWhile (by decide) hd, ?_,
    isName_of_readAttributes (List.forall_mem_nil _) hread⟩
  rw [List.takeWhile_cons, endsName_of_isLetter hc]
  exact exists_nameOf_cons hc _

/-! ## Tokens -/

/-- Whether the names in a token are those of a start tag, where it is one. -/
def Token.IsSound : Token → Prop
  | .start tag attributes _ => IsTag tag attributes
  | _ => True

theorem isSound_of_mem_textToken {t : Text} {token : Token} (h : token ∈ textToken t) :
    token.IsSound := by
  rw [textToken] at h
  split at h
  · cases h
  · obtain rfl := List.mem_singleton.mp h
    trivial

theorem isSound_of_mem_scan {fuel : Nat} {t : Text} :
    ∀ token ∈ scan fuel t, token.IsSound := by
  fun_induction scan fuel t with
  | case1 => exact nofun
  | case2 => exact nofun
  | case3 _ _ ih => exact List.forall_mem_cons.mpr ⟨trivial, ih⟩
  | case4 _ _ _ _ ih => exact ih
  | case5 _ _ _ _ ih => exact List.forall_mem_cons.mpr ⟨trivial, ih⟩
  | case6 _ _ ih => exact List.forall_mem_cons.mpr ⟨trivial, ih⟩
  | case7 _ _ ih => exact ih
  | case8 _ _ _ _ _ _ _ _ _ _ ih => exact List.forall_mem_cons.mpr ⟨trivial, ih⟩
  | case9 => exact nofun
  | case10 _ _ _ _ _ ih => exact List.forall_mem_cons.mpr ⟨trivial, ih⟩
  | case11 _ _ _ _ _ _ _ _ hletter _ _ _ _ hread _ _ _ ih =>
      refine List.forall_mem_cons.mpr ⟨isTag_of_readTag hletter hread, ?_⟩
      exact List.forall_mem_append.mpr ⟨fun _ hmem => isSound_of_mem_textToken hmem, ih⟩
  | case12 => exact nofun
  | case13 _ _ _ _ _ _ _ _ _ ih => exact List.forall_mem_cons.mpr ⟨trivial, ih⟩
  | case14 => exact List.forall_mem_singleton.mpr trivial
  | case15 _ _ _ _ _ ih => exact List.forall_mem_cons.mpr ⟨trivial, ih⟩

/-- Every start tag in markup has the names of one. -/
theorem isSound_of_mem_tokens {markup : Text} : ∀ token ∈ tokens markup, token.IsSound :=
  isSound_of_mem_scan

end ArticleExport.Markup
