import ArticleExport.Json.Reader
import ArticleExport.Proofs.Json.Reordering

/-!
# The compact form determines the value

No two exact values have the same compact form, and so no two of them that differ
in more than the order of names have the same canonical text.

A written value does not always end by itself: behind a whole number another digit
could follow.  It is therefore shown that a written value can be told from what
comes behind it as long as that is no digit, which separators and closing marks are
not.  Strings are told apart by reading them back.
-/

namespace ArticleExport

namespace CodePoint

theorem ofNat?_value (c : CodePoint) : ofNat? c.value = some c := by
  cases c with
  | scalar c =>
      have h : c.toNat.isValidChar := c.valid
      rw [value, ofNat?, dif_pos h]
      exact congrArg (some ∘ scalar) (Char.ext (UInt32.toNat_inj.mp rfl))
  | surrogate n =>
      have hn := n.isLt
      have h : ¬(0xD800 + n.val).isValidChar := by
        simp only [Nat.isValidChar]
        omega
      have h' : 0xD800 ≤ 0xD800 + n.val ∧ 0xD800 + n.val < 0xE000 := by omega
      rw [value, ofNat?, dif_neg h, dif_pos h']
      simp

/-- A character is below the end of Unicode, and no surrogate. -/
theorem value_of_isScalar {c : CodePoint} (h : c.isScalar = true) :
    c.value < 0x110000 ∧ ¬(0xD800 ≤ c.value ∧ c.value < 0xDC00) := by
  cases c with
  | scalar c =>
      have hvalid : c.toNat.isValidChar := c.valid
      simp only [Nat.isValidChar] at hvalid
      rw [value]
      omega
  | surrogate n => cases h

end CodePoint

namespace Json

/-! ## Strings -/

theorem hexDigit?_digitChar {n : Nat} (h : n < 16) :
    hexDigit? (.scalar (Nat.digitChar n)) = some n := by
  revert n
  decide

/-- The four digits of a unit stand for it. -/
theorem hexUnit?_digitChars {n : Nat} (h : n < 0x10000) :
    hexUnit? (.scalar (Nat.digitChar (n / 0x1000 % 16))) (.scalar (Nat.digitChar (n / 0x100 % 16)))
      (.scalar (Nat.digitChar (n / 0x10 % 16))) (.scalar (Nat.digitChar (n % 16))) = some n := by
  have hmod (k : Nat) : hexDigit? (.scalar (Nat.digitChar (k % 16))) = some (k % 16) :=
    hexDigit?_digitChar (Nat.mod_lt k (by decide))
  simp only [hexUnit?, hmod, Option.bind_eq_bind, Option.bind_some, pure, Option.some.injEq]
  omega

theorem readString_unitEscape {c : CodePoint} (h : c.value < 0x10000)
    (hhigh : ¬(0xD800 ≤ c.value ∧ c.value < 0xDC00)) (r : Text) :
    readString (unitEscape c.value ++ r) = before c (readString r) := by
  have hunit := hexUnit?_digitChars h
  -- What is no upper surrogate is no half of a pair, whatever escape stands behind it.
  have hjoin : joinSurrogates? c.value = fun _ => none := by
    funext low
    rw [joinSurrogates?, if_neg (by omega)]
  simp only [unitEscape, hexUnit, List.map_cons, List.map_nil, List.cons_append, List.nil_append]
  rw [readString]
  simp only [hunit, CodePoint.ofNat?_value, hjoin]
  split <;> simp

/-- Two halves of a pair are read as one character. -/
theorem readString_pair {high low : Nat} {c : CodePoint} (hhigh : high < 0x10000)
    (hlow : low < 0x10000) (hjoin : joinSurrogates? high low = some c) (r : Text) :
    readString (unitEscape high ++ (unitEscape low ++ r)) = before c (readString r) := by
  simp only [unitEscape, hexUnit, List.map_cons, List.map_nil, List.cons_append, List.nil_append]
  rw [readString]
  simp only [hexUnit?_digitChars hhigh, hexUnit?_digitChars hlow, Option.bind_some, hjoin]

/-- A character beyond the first 65536 is the pair that it is escaped as. -/
theorem joinSurrogates?_eq {c : CodePoint} (h : 0x10000 ≤ c.value) (hbound : c.value < 0x110000) :
    joinSurrogates? (0xD800 + (c.value - 0x10000) / 0x400) (0xDC00 + c.value % 0x400) = some c := by
  have hvalue : 0x10000 + (0xD800 + (c.value - 0x10000) / 0x400 - 0xD800) * 0x400 +
      (0xDC00 + c.value % 0x400 - 0xDC00) = c.value := by
    omega
  rw [joinSurrogates?, if_pos (by omega), hvalue, CodePoint.ofNat?_value]

theorem readString_cons
    {c : CodePoint} (hquote : c ≠ .scalar '"') (hslash : c ≠ .scalar '\\')
    (hcontrol : ¬c.value < 0x20) (r : Text) :
    readString (c :: r) = before c (readString r) := by
  rw [readString]
  · simp [hslash, hcontrol]
  · exact hquote
  · intro _ _ _ _ _ h
    exact absurd h hslash
  · intro _ _ h
    exact absurd h hslash

/-- A code point that is written in a string is read as itself; all in ASCII, a lone surrogate may not
be. -/
theorem readString_escapePoint (ascii : Bool) {c : CodePoint}
    (hscalar : ascii = true → c.isScalar = true) (r : Text) :
    readString (escapePoint ascii c ++ r) = before c (readString r) := by
  unfold escapePoint
  split
  case h_8 hquote hslash _ _ _ _ _ =>
    by_cases hcontrol : c.value < 0x20
    · simp only [hcontrol, if_true]
      exact readString_unitEscape (by omega) (by omega) r
    · simp only [hcontrol, if_false]
      by_cases hescaped : (ascii && decide (0x7E < c.value)) = true
      · rw [if_pos hescaped]
        obtain ⟨hascii, -⟩ := Bool.and_eq_true_iff.mp hescaped
        obtain ⟨hbound, hhigh⟩ := CodePoint.value_of_isScalar (hscalar hascii)
        by_cases hpair : c.value < 0x10000
        · rw [if_pos hpair]
          exact readString_unitEscape hpair hhigh r
        · rw [if_neg hpair, List.append_assoc]
          exact readString_pair (by omega) (by omega)
            (joinSurrogates?_eq (Nat.le_of_not_lt hpair) hbound) r
      · rw [if_neg hescaped]
        exact readString_cons hquote hslash hcontrol r
  all_goals rfl

/-- A string that is written is read as itself, whatever stands behind it. -/
theorem readString_escaped (ascii : Bool) {t : Text} (hscalar : ascii = true → t.IsScalar) (r : Text) :
    readString (t.flatMap (escapePoint ascii) ++ .scalar '"' :: r) = some (t, r) := by
  induction t with
  | nil => simp [readString]
  | cons c t ih =>
      have hc : ascii = true → c.isScalar = true := fun h => hscalar h c (.head _)
      have ht : ascii = true → Text.IsScalar t := fun h d hd => hscalar h d (.tail _ hd)
      rw [List.flatMap_cons, List.append_assoc, readString_escapePoint ascii hc, ih ht]
      rfl

theorem printString_append_inj
    {t u r s : Text} (h : printString false t ++ r = printString false u ++ s) :
    t = u ∧ r = s := by
  simp only [printString, List.cons_append, List.append_assoc, List.nil_append,
    List.cons.injEq, true_and] at h
  have hread := congrArg readString h
  rw [readString_escaped false nofun, readString_escaped false nofun] at hread
  exact Prod.mk.inj (Option.some.inj hread)

/-! ## What may stand behind a value -/

/-- A text that does not begin with a digit. -/
def EndsNumber (r : Text) : Prop := ∀ c t, r = .scalar c :: t → c.isDigit = false

theorem endsNumber_cons {c : Char} (h : c.isDigit = false) (t : Text) :
    EndsNumber (.scalar c :: t) := by
  intro d u hd
  have hcd : c = d := CodePoint.scalar.inj (List.cons.inj hd).1
  exact hcd ▸ h

/-- Two values whose written forms can be told apart, and from what stands behind them. -/
def Separable {α : Type} (write : α → Text) (a b : α) : Prop :=
  ∀ {r s : Text}, EndsNumber r → EndsNumber s → write a ++ r = write b ++ s → a = b ∧ r = s

section Lists

variable {α : Type} {write : α → Text} {xs ys : List α} {close : Char} {r s : Text}

/-- The written forms of more values, a comma before each. -/
def continued (write : α → Text) (xs : List α) : Text :=
  xs.flatMap fun x => .scalar ',' :: write x

theorem join_cons (t : Text) (ts : List Text) :
    Text.join "," (t :: ts) = t ++ continued id ts := by
  induction ts generalizing t with
  | nil => simp [Text.join, continued]
  | cons u ts ih =>
      have hcomma : Text.ofString "," = [.scalar ','] := rfl
      rw [Text.join, ih, hcomma]
      · simp [continued]
      · simp

theorem endsNumber_continued (hclose : close.isDigit = false) :
    EndsNumber (continued write xs ++ .scalar close :: r) := by
  cases xs with
  | nil => exact endsNumber_cons hclose r
  | cons x xs => exact endsNumber_cons (by decide) _

theorem continued_append_inj
    (hdigit : close.isDigit = false) (hcomma : close ≠ ',')
    (h : ∀ x ∈ xs, ∀ y ∈ ys, Separable write x y)
    (heq : continued write xs ++ .scalar close :: r = continued write ys ++ .scalar close :: s) :
    xs = ys ∧ r = s := by
  induction xs generalizing ys with
  | nil =>
      cases ys with
      | nil => exact ⟨rfl, (List.cons.inj heq).2⟩
      | cons y ys =>
          have hhead := (List.cons.inj heq).1
          exact absurd (CodePoint.scalar.inj hhead) hcomma
  | cons x xs ih =>
      cases ys with
      | nil =>
          have hhead := (List.cons.inj heq).1
          exact absurd (CodePoint.scalar.inj hhead).symm hcomma
      | cons y ys =>
          simp only [continued, List.flatMap_cons, List.cons_append, List.append_assoc,
            List.cons.injEq, true_and] at heq
          obtain ⟨rfl, hrest⟩ := h x (.head _) y (.head _)
            (endsNumber_continued hdigit) (endsNumber_continued hdigit) heq
          obtain ⟨rfl, hrs⟩ := ih (fun a ha b hb => h a (.tail _ ha) b (.tail _ hb)) hrest
          exact ⟨rfl, hrs⟩

/-- Lists of values that can be told apart can be told apart up to their closing mark. -/
theorem join_append_inj
    (hdigit : close.isDigit = false) (hcomma : close ≠ ',')
    (h : ∀ x ∈ xs, ∀ y ∈ ys, Separable write x y)
    (hx : ∀ x ∈ xs, (write x).head? ≠ some (.scalar close) ∧ write x ≠ [])
    (hy : ∀ y ∈ ys, (write y).head? ≠ some (.scalar close) ∧ write y ≠ [])
    (heq : Text.join "," (xs.map write) ++ .scalar close :: r =
      Text.join "," (ys.map write) ++ .scalar close :: s) :
    xs = ys ∧ r = s := by
  have hwritten (zs : List α) : continued id (zs.map write) = continued write zs := by
    simp [continued, List.flatMap_map]
  cases xs with
  | nil =>
      cases ys with
      | nil => exact ⟨rfl, (List.cons.inj heq).2⟩
      | cons y ys =>
          obtain ⟨hhead, hne⟩ := hy y (.head _)
          have h' := congrArg List.head? heq
          simp [Text.join, join_cons, List.head?_append_of_ne_nil _ hne] at h'
          exact absurd h'.symm hhead
  | cons x xs =>
      cases ys with
      | nil =>
          obtain ⟨hhead, hne⟩ := hx x (.head _)
          have h' := congrArg List.head? heq
          simp [Text.join, join_cons, List.head?_append_of_ne_nil _ hne] at h'
          exact absurd h' hhead
      | cons y ys =>
          rw [List.map_cons, List.map_cons, join_cons, join_cons, hwritten, hwritten,
            List.append_assoc, List.append_assoc] at heq
          obtain ⟨rfl, hrest⟩ := h x (.head _) y (.head _)
            (endsNumber_continued hdigit) (endsNumber_continued hdigit) heq
          obtain ⟨rfl, hrs⟩ := continued_append_inj hdigit hcomma
            (fun a ha b hb => h a (.tail _ ha) b (.tail _ hb)) hrest
          exact ⟨rfl, hrs⟩

end Lists

/-! ## Whole numbers -/

theorem isDigit_of_mem_ofNat {n : Nat} {c : Char} (h : CodePoint.scalar c ∈ Text.ofNat n) :
    c.isDigit = true := by
  obtain ⟨d, hd, hcd⟩ := List.mem_map.mp h
  obtain rfl := CodePoint.scalar.inj hcd
  exact Nat.isDigit_of_mem_toDigits (by decide) (by decide) hd

theorem ofNat_ne_nil (n : Nat) : Text.ofNat n ≠ [] := by
  simp [Text.ofNat]

/-- Digits can be told from what comes behind them. -/
theorem digits_append_inj
    {ds es : List Char} (hds : ∀ c ∈ ds, c.isDigit = true) (hes : ∀ c ∈ es, c.isDigit = true)
    {r s : Text} (hr : EndsNumber r) (hs : EndsNumber s)
    (h : ds.map CodePoint.scalar ++ r = es.map CodePoint.scalar ++ s) : ds = es ∧ r = s := by
  induction ds generalizing es with
  | nil =>
      cases es with
      | nil => exact ⟨rfl, h⟩
      | cons e es =>
          have hdigit := hes e (.head _)
          rw [hr e _ h] at hdigit
          cases hdigit
  | cons d ds ih =>
      cases es with
      | nil =>
          have hdigit := hds d (.head _)
          rw [hs d _ h.symm] at hdigit
          cases hdigit
      | cons e es =>
          obtain ⟨hde, hrest⟩ := List.cons.inj h
          obtain rfl := CodePoint.scalar.inj hde
          obtain ⟨rfl, hrs⟩ :=
            ih (fun c hc => hds c (.tail _ hc)) (fun c hc => hes c (.tail _ hc)) hrest
          exact ⟨rfl, hrs⟩

theorem ofNat_separable (m n : Nat) : Separable Text.ofNat m n := by
  intro r s hr hs h
  have hdigits (k : Nat) : ∀ c ∈ Nat.toDigits 10 k, c.isDigit = true := fun c hc =>
    Nat.isDigit_of_mem_toDigits (by decide) (by decide) hc
  obtain ⟨hmn, hrs⟩ := digits_append_inj (hdigits m) (hdigits n) hr hs h
  refine ⟨?_, hrs⟩
  have hvalue := congrArg (Nat.ofDigitChars 10 · 0) hmn
  simpa using hvalue

/-- A number without a sign does not begin like one with a sign. -/
theorem ofNat_append_ne_minus (n : Nat) (r t : Text) :
    Text.ofNat n ++ r ≠ .scalar '-' :: t := by
  intro h
  cases hn : Text.ofNat n with
  | nil => exact ofNat_ne_nil n hn
  | cons c ds =>
      rw [hn, List.cons_append] at h
      have hc : c = .scalar '-' := (List.cons.inj h).1
      have hmem : CodePoint.scalar '-' ∈ Text.ofNat n := by
        rw [hn, hc]
        exact .head _
      exact absurd (isDigit_of_mem_ofNat hmem) (by decide)

theorem ofInt_separable (m n : Int) : Separable Text.ofInt m n := by
  intro r s hr hs h
  cases m with
  | ofNat m =>
      cases n with
      | ofNat n =>
          obtain ⟨rfl, hrs⟩ := ofNat_separable m n hr hs h
          exact ⟨rfl, hrs⟩
      | negSucc n => exact absurd h (ofNat_append_ne_minus m r _)
  | negSucc m =>
      cases n with
      | ofNat n => exact absurd h.symm (ofNat_append_ne_minus n s _)
      | negSucc n =>
          obtain ⟨hmn, hrs⟩ := ofNat_separable (m + 1) (n + 1) hr hs (List.cons.inj h).2
          obtain rfl := Nat.succ.inj hmn
          exact ⟨rfl, hrs⟩

/-! ## Values -/

/-- What a value is, as far as its first letter tells. -/
inductive Form where
  | null
  | truth
  | number
  | text
  | list
  | object
deriving DecidableEq

/-- The form that a code point begins. -/
def formBegun : CodePoint → Option Form
  | .scalar '"' => some .text
  | .scalar '[' => some .list
  | .scalar '\x7b' => some .object
  | .scalar 'n' => some .null
  | .scalar 't' | .scalar 'f' => some .truth
  | .scalar c => if c.isDigit || c == '-' then some .number else none
  | .surrogate _ => none

/-- The form of a value. -/
def form : Json → Form
  | null => .null
  | bool _ => .truth
  | int _ | float _ => .number
  | str _ => .text
  | arr _ => .list
  | obj _ | keyed _ => .object

theorem formBegun_of_isDigit {c : Char} (h : c.isDigit = true) :
    formBegun (.scalar c) = some .number := by
  unfold formBegun
  split <;> simp_all

/-- The compact form of an entry. -/
def writeEntry (depth : Nat) (e : Text × Json) : Text :=
  printString false e.1 ++ .scalar ':' :: printAt .compact depth e.2

theorem printItems_compact (depth : Nat) (items : List Json) :
    printItems .compact depth items = Text.join "," (items.map (printAt .compact depth)) := by
  induction items with
  | nil => rfl
  | cons v vs ih =>
      cases vs with
      | nil => rfl
      | cons w ws =>
          rw [printItems, ih]
          · simp [Text.join, Layout.lineStart, Layout.compact, Text.ofString]
          · simp

theorem printEntries_compact (depth : Nat) (entries : List (Text × Json)) :
    printEntries .compact depth entries = Text.join "," (entries.map (writeEntry depth)) := by
  induction entries with
  | nil => rfl
  | cons e es ih =>
      cases es with
      | nil => rfl
      | cons f fs =>
          rw [printEntries, ih]
          · simp [Text.join, writeEntry, Layout.lineStart, Layout.compact, Text.ofString]
          · simp

theorem printAt_arr (depth : Nat) (items : List Json) :
    printAt .compact depth (.arr items) =
      .scalar '[' ::
        (Text.join "," (items.map (printAt .compact (depth + 1))) ++ [.scalar ']']) := by
  cases items with
  | nil => rfl
  | cons v vs =>
      rw [printAt, printItems_compact]
      · rfl
      · simp

theorem printAt_obj (depth : Nat) (entries : List (Text × Json)) :
    printAt .compact depth (.obj entries) =
      .scalar '\x7b' ::
        (Text.join "," (entries.map (writeEntry (depth + 1))) ++ [.scalar '\x7d']) := by
  cases entries with
  | nil => rfl
  | cons e es =>
      rw [printAt, printEntries_compact]
      · rfl
      · simp

/-- The first letter of a value tells its form. -/
theorem printAt_begins (l : Layout) {v : Json} (hv : v.IsExact) (depth : Nat) :
    ∃ c t, printAt l depth v = c :: t ∧ formBegun c = some v.form := by
  cases hv with
  | null => exact ⟨_, _, rfl, rfl⟩
  | bool b => cases b <;> exact ⟨_, _, rfl, rfl⟩
  | int n =>
      cases n with
      | ofNat n =>
          cases hn : Text.ofNat n with
          | nil => exact absurd hn (ofNat_ne_nil n)
          | cons c t =>
              have hmem : c ∈ Text.ofNat n := hn ▸ .head _
              obtain ⟨d, hd, rfl⟩ := List.mem_map.mp hmem
              exact ⟨_, t, hn, formBegun_of_isDigit (isDigit_of_mem_ofNat hmem)⟩
      | negSucc n => exact ⟨_, _, rfl, rfl⟩
  | str t => exact ⟨_, _, rfl, rfl⟩
  | @arr items => cases items <;> exact ⟨_, _, rfl, rfl⟩
  | @obj entries => cases entries <;> exact ⟨_, _, rfl, rfl⟩

theorem form_eq_of_printAt_append_eq
    {v w : Json} (hv : v.IsExact) (hw : w.IsExact) {depth : Nat} {r s : Text}
    (h : printAt .compact depth v ++ r = printAt .compact depth w ++ s) : v.form = w.form := by
  obtain ⟨c, t, hc, hcv⟩ := printAt_begins .compact hv depth
  obtain ⟨d, u, hd, hdw⟩ := printAt_begins .compact hw depth
  rw [hc, hd] at h
  have hcd : c = d := (List.cons.inj h).1
  rw [hcd, hdw] at hcv
  exact (Option.some.inj hcv).symm

/-- No value begins like a closing mark. -/
theorem printAt_head_ne {v : Json} (hv : v.IsExact) (depth : Nat) :
    (printAt .compact depth v).head? ≠ some (.scalar ']') ∧ printAt .compact depth v ≠ [] := by
  obtain ⟨c, t, hc, hform⟩ := printAt_begins .compact hv depth
  rw [hc]
  refine ⟨?_, List.cons_ne_nil c t⟩
  intro hclose
  rw [Option.some.inj hclose] at hform
  cases hform

theorem writeEntry_separable
    {e f : Text × Json} {depth : Nat} (h : Separable (printAt .compact depth) e.2 f.2) :
    Separable (writeEntry depth) e f := by
  intro r s hr hs heq
  rw [writeEntry, writeEntry, List.append_assoc, List.append_assoc] at heq
  obtain ⟨hname, hrest⟩ := printString_append_inj heq
  obtain ⟨hvalue, hrs⟩ := h hr hs (List.cons.inj hrest).2
  exact ⟨Prod.ext hname hvalue, hrs⟩

/-- An exact value can be told from every other one, and from what stands behind it. -/
theorem printAt_separable {v w : Json} (hv : v.IsExact) (hw : w.IsExact) (depth : Nat) :
    Separable (printAt .compact depth) v w := by
  induction hv generalizing w depth with
  | null =>
      intro r s _ _ h
      have hform := form_eq_of_printAt_append_eq .null hw h
      cases hw <;> cases hform
      exact ⟨rfl, List.append_cancel_left h⟩
  | bool b =>
      intro r s _ _ h
      have hform := form_eq_of_printAt_append_eq (.bool b) hw h
      cases hw <;> cases hform
      rename_i c
      cases b <;> cases c <;> simp_all [printAt, Text.ofString]
  | int m =>
      intro r s hr hs h
      have hform := form_eq_of_printAt_append_eq (.int m) hw h
      cases hw <;> cases hform
      obtain ⟨rfl, hrs⟩ := ofInt_separable m _ hr hs h
      exact ⟨rfl, hrs⟩
  | str t =>
      intro r s _ _ h
      have hform := form_eq_of_printAt_append_eq (.str t) hw h
      cases hw <;> cases hform
      obtain ⟨rfl, hrs⟩ := printString_append_inj h
      exact ⟨rfl, hrs⟩
  | arr hitems ih =>
      intro r s _ _ h
      have hform := form_eq_of_printAt_append_eq (.arr hitems) hw h
      cases hw <;> cases hform
      rename_i hothers
      rw [printAt_arr, printAt_arr, List.cons_append, List.cons_append, List.append_assoc,
        List.append_assoc] at h
      obtain ⟨rfl, hrs⟩ := join_append_inj (by decide) (by decide)
        (fun a ha b hb => ih a ha (hothers b hb) (depth + 1))
        (fun a ha => printAt_head_ne (hitems a ha) _) (fun b hb => printAt_head_ne (hothers b hb) _)
        (List.cons.inj h).2
      exact ⟨rfl, hrs⟩
  | obj hdistinct hentries ih =>
      intro r s _ _ h
      have hform := form_eq_of_printAt_append_eq (.obj hdistinct hentries) hw h
      cases hw <;> cases hform
      rename_i hothers
      rw [printAt_obj, printAt_obj, List.cons_append, List.cons_append, List.append_assoc,
        List.append_assoc] at h
      obtain ⟨rfl, hrs⟩ := join_append_inj (by decide) (by decide)
        (fun a ha b hb => writeEntry_separable (ih a ha (hothers b hb) (depth + 1)))
        (fun _ _ => ⟨by simp [writeEntry, printString], by simp [writeEntry, printString]⟩)
        (fun _ _ => ⟨by simp [writeEntry, printString], by simp [writeEntry, printString]⟩)
        (List.cons.inj h).2
      exact ⟨rfl, hrs⟩

/-- The compact form of an exact value determines it. -/
theorem eq_of_print_compact_eq
    {v w : Json} (hv : v.IsExact) (hw : w.IsExact) (h : print .compact v = print .compact w) :
    v = w := by
  have hnil : EndsNumber [] := by
    intro c t hc
    cases hc
  have happ : printAt .compact 0 v ++ [] = printAt .compact 0 w ++ [] := by
    rw [List.append_nil, List.append_nil]
    exact h
  exact (printAt_separable hv hw 0 hnil hnil happ).1

/-- Exact values have the same canonical text exactly when they say the same. -/
theorem canonicalText_eq_iff {v w : Json} (hv : v.IsExact) (hw : w.IsExact) :
    v.canonicalText = w.canonicalText ↔ Reordered v w := by
  rw [reordered_iff_inOrder_eq hv hw, canonicalText, canonicalText]
  constructor
  · intro h
    exact eq_of_print_compact_eq ((Reordered.inOrder hv).isExact hv)
      ((Reordered.inOrder hw).isExact hw) h
  · intro h
    rw [h]

end Json

end ArticleExport
