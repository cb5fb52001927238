import ArticleExport.Proofs.Json.Printing
import ArticleExport.Proofs.Json.Scalars
import ArticleExport.Proofs.Table

/-!
# Written values are read back

A value without floating-point numbers is read back from each of its written forms,
whatever the layout puts between its parts, as long as its texts are made of characters
and its whole numbers do not have more digits than a reader takes.  The canonical form
puts the names of objects in order, so that what is read back from it says the same.

The reader is bounded by the length of its text.  The induction is on the value, with
anything behind it that cannot go on with a number: a gap, a comma or a closing mark.
-/

namespace ArticleExport

namespace Json

/-! ## Values that can be read back -/

/-- A value that is the same in every place where JSON is read and written. -/
inductive IsPortable : Json → Prop where
  | null : IsPortable null
  | bool (b : Bool) : IsPortable (bool b)
  | int {n : Int} (h : hasFewDigits n.natAbs = true) : IsPortable (int n)
  | str {t : Text} (h : t.IsScalar) : IsPortable (str t)
  | arr {items : List Json} (h : ∀ v ∈ items, IsPortable v) : IsPortable (arr items)
  | obj {entries : List (Text × Json)} (hdistinct : Table.Distinct entries)
      (hnames : ∀ e ∈ entries, e.1.IsScalar) (hvalues : ∀ e ∈ entries, IsPortable e.2) :
      IsPortable (obj entries)

theorem IsPortable.isExact {v : Json} (h : v.IsPortable) : v.IsExact := by
  induction h with
  | null => exact .null
  | bool b => exact .bool b
  | int _ => exact .int _
  | str _ => exact .str _
  | arr _ ih => exact .arr ih
  | obj hdistinct _ _ ih => exact .obj hdistinct ih

theorem IsPortable.isScalar {v : Json} (h : v.IsPortable) : v.IsScalar := by
  induction h with
  | null => exact .null
  | bool b => exact .bool b
  | int _ => exact .int _
  | str h => exact .str h
  | arr _ ih => exact .arr ih
  | obj _ hnames _ ih => exact .obj hnames ih

theorem IsPortable.inOrder {v : Json} (h : v.IsPortable) : v.inOrder.IsPortable := by
  induction h with
  | null => exact .null
  | bool b => exact .bool b
  | int h => exact .int h
  | str h => exact .str h
  | arr _ ih =>
      rw [Json.inOrder, inOrderItems_eq_map]
      refine .arr ?_
      intro v hv
      obtain ⟨w, hw, rfl⟩ := List.mem_map.mp hv
      exact ih w hw
  | @obj entries hdistinct hnames hvalues ih =>
      have hexact : (Json.obj entries).IsExact :=
        .obj hdistinct fun e he => (hvalues e he).isExact
      have hperm := sortEntries_perm (inOrderEntries entries)
      have hdistinct' : Table.Distinct (sortEntries (inOrderEntries entries)) :=
        (hperm.map Prod.fst).nodup_iff.mpr (distinct_inOrderEntries hexact)
      have hentry : ∀ e ∈ sortEntries (inOrderEntries entries), e.1.IsScalar ∧ e.2.IsPortable := by
        intro e he
        have hmem := hperm.subset he
        rw [inOrderEntries_eq_map] at hmem
        obtain ⟨f, hf, rfl⟩ := List.mem_map.mp hmem
        exact ⟨hnames f hf, ih f hf⟩
      rw [Json.inOrder]
      exact .obj hdistinct' (fun e he => (hentry e he).1) fun e he => (hentry e he).2

/-! ## Gaps -/

/-- A text that has nothing but gap in it. -/
def IsGap (t : Text) : Prop := ∀ c ∈ t, isGap c = true

theorem isGap_nil : IsGap [] := nofun

theorem isGap_append {s t : Text} : IsGap (s ++ t) ↔ IsGap s ∧ IsGap t := List.forall_mem_append

theorem skipGap_append {gap t : Text} (hgap : IsGap gap) (ht : ∀ c ∈ t.head?, isGap c = false) :
    skipGap (gap ++ t) = t := by
  rw [skipGap, List.dropWhile_append_of_pos hgap]
  cases t with
  | nil => rfl
  | cons c t =>
      have hc : isGap c = false := ht c rfl
      rw [List.dropWhile_cons, hc, if_neg nofun]

theorem skipGap_cons {c : CodePoint} (h : isGap c = false) (t : Text) :
    skipGap (c :: t) = c :: t := by
  rw [skipGap, List.dropWhile_cons, h, if_neg nofun]

theorem isGap_lineStart (l : Layout) (depth : Nat) : IsGap (l.lineStart depth) := by
  rw [Layout.lineStart]
  cases l.indent with
  | none => exact isGap_nil
  | some n =>
      refine List.forall_mem_cons.mpr ⟨rfl, ?_⟩
      intro c hc
      rw [(List.mem_replicate.mp hc).2]
      rfl

/-- A layout whose separators are a comma and a colon, with nothing but gap behind them. -/
structure Layout.Separates (l : Layout) : Prop where
  item : ∃ gap, l.itemSeparator = .scalar ',' :: gap ∧ IsGap gap
  name : ∃ gap, l.nameSeparator = .scalar ':' :: gap ∧ IsGap gap

theorem separates_plain : Layout.plain.Separates :=
  ⟨⟨[.scalar ' '], rfl, by simp [IsGap, isGap]⟩, ⟨[.scalar ' '], rfl, by simp [IsGap, isGap]⟩⟩

theorem separates_plainAscii : Layout.plainAscii.Separates :=
  ⟨⟨[.scalar ' '], rfl, by simp [IsGap, isGap]⟩, ⟨[.scalar ' '], rfl, by simp [IsGap, isGap]⟩⟩

theorem separates_compact : Layout.compact.Separates :=
  ⟨⟨[], rfl, nofun⟩, ⟨[], rfl, nofun⟩⟩

theorem separates_indented : Layout.indented.Separates :=
  ⟨⟨[], rfl, nofun⟩, ⟨[.scalar ' '], rfl, by simp [IsGap, isGap]⟩⟩

/-- A text that may stand behind a value: with it no number goes on. -/
def EndsValue (r : Text) : Prop :=
  ∀ c ∈ r.head?, isGap c = true ∨ c ∈ [CodePoint.scalar ',', .scalar ']', .scalar '\x7d']

theorem EndsValue.head {c : Char} {t : Text} (h : EndsValue (.scalar c :: t)) :
    c ∈ [' ', '\n', '\r', '\t', ',', ']', '\x7d'] := by
  rcases h _ rfl with hgap | hmark
  · unfold isGap at hgap
    split at hgap
    all_goals simp_all
  · simp only [List.mem_cons, CodePoint.scalar.injEq, List.not_mem_nil, or_false] at hmark
    rcases hmark with rfl | rfl | rfl
    all_goals decide

theorem endsValue_gap_append {gap : Text} (hgap : IsGap gap) {c : CodePoint}
    (hc : c ∈ [CodePoint.scalar ',', .scalar ']', .scalar '\x7d']) (t : Text) :
    EndsValue (gap ++ c :: t) := by
  intro d hd
  cases gap with
  | nil => exact .inr (Option.some.inj hd ▸ hc)
  | cons e gap => exact .inl (Option.some.inj hd ▸ hgap e (.head _))

/-! ## Whole numbers -/

theorem digitsValue_toDigits (n : Nat) : digitsValue (Nat.toDigits 10 n) = n := by
  rw [digitsValue]
  simp only [Nat.mul_comm _ 10]
  rw [← Nat.ofDigitChars_eq_foldl, Nat.ofDigitChars_ten_toDigits]

theorem head?_toDigits {n : Nat} (h : 0 < n) : (Nat.toDigits 10 n).head? ≠ some '0' := by
  induction n using Nat.strongRecOn with
  | ind n ih =>
      by_cases hsmall : n < 10
      · have hdigit : ∀ m < 10, 0 < m → [Nat.digitChar m].head? ≠ some '0' := by decide
        rw [Nat.toDigits_of_lt_base hsmall]
        exact hdigit n hsmall h
      · have hfirst := ih (n / 10) (by omega) (by omega)
        rw [Nat.toDigits_of_base_le (by decide) (by omega),
          List.head?_append_of_ne_nil _ (Nat.toDigits_ne_nil)]
        exact hfirst

theorem spanDigits_append {ds : List Char} (hds : ∀ c ∈ ds, c.isDigit = true) {r : Text}
    (hr : EndsNumber r) :
    spanDigits (ds.map CodePoint.scalar ++ r) = (ds, r) := by
  induction ds with
  | nil =>
      cases r with
      | nil => rfl
      | cons c r =>
          cases c with
          | scalar c =>
              have hc : c.isDigit = false := hr c r rfl
              rw [List.map_nil, List.nil_append, spanDigits, hc, if_neg nofun]
          | surrogate n => rfl
  | cons d ds ih =>
      obtain ⟨hd, hds⟩ := List.forall_mem_cons.mp hds
      rw [List.map_cons, List.cons_append, spanDigits, hd, if_pos rfl, ih hds]

theorem EndsValue.endsNumber {r : Text} (h : EndsValue r) : EndsNumber r := by
  rintro c t rfl
  have hnone : [' ', '\n', '\r', '\t', ',', ']', '\x7d'].all (fun c => !c.isDigit) = true := by decide
  simpa using List.all_eq_true.mp hnone c h.head

theorem EndsValue.readFraction {r : Text} (h : EndsValue r) : readFraction r = ([], r) := by
  unfold Json.readFraction
  split
  · exact absurd h.head (by decide)
  · rfl

theorem EndsValue.readExponent {r : Text} (h : EndsValue r) : readExponent r = (none, r) := by
  unfold Json.readExponent
  split
  · rename_i e t
    have hletter : ¬(e = 'e' ∨ e = 'E') := by
      rintro (rfl | rfl)
      · exact absurd h.head (by decide)
      · exact absurd h.head (by decide)
    rw [if_neg hletter]
  · rfl

/-- The digits of a number are read as the number. -/
theorem readUnsigned_ofNat (negative : Bool) {n : Nat} (hn : hasFewDigits n = true) {r : Text}
    (hr : EndsValue r) :
    readUnsigned negative (Text.ofNat n ++ r) = .ok (int (if negative then -n else n), r) := by
  have hlength : ¬digitLimit < (Nat.toDigits 10 n).length := Nat.not_lt.mpr (of_decide_eq_true hn)
  have hempty : (Nat.toDigits 10 n).isEmpty = false :=
    List.isEmpty_eq_false_iff.mpr Nat.toDigits_ne_nil
  rcases Nat.eq_zero_or_pos n with rfl | hpos
  · change readUnsigned negative (.scalar '0' :: r) = _
    rw [readUnsigned]
    simp only [hr.readFraction, hr.readExponent]
    cases negative <;> rfl
  · have hdigit : ∀ c ∈ Nat.toDigits 10 n, c.isDigit = true := fun c hc =>
      Nat.isDigit_of_mem_toDigits (by decide) (by decide) hc
    rw [readUnsigned, Text.ofNat, spanDigits_append hdigit hr.endsNumber]
    · simp only [hempty, hr.readFraction, hr.readExponent, hlength, digitsValue_toDigits,
        Bool.false_eq_true, if_false, List.isEmpty_nil, Option.isNone_none, and_self, if_true]
    · intro t ht
      have hhead := congrArg List.head? ht
      rw [List.head?_append_of_ne_nil _ (ofNat_ne_nil n), Text.ofNat, List.head?_map] at hhead
      obtain ⟨c, hc, hzero⟩ := Option.map_eq_some_iff.mp hhead
      obtain rfl := CodePoint.scalar.inj hzero
      exact head?_toDigits hpos hc

theorem exists_ofNat_eq_cons (n : Nat) :
    ∃ c t, Text.ofNat n = .scalar c :: t ∧ c.isDigit = true := by
  obtain ⟨d, t, ht⟩ := List.exists_cons_of_ne_nil (ofNat_ne_nil n)
  have hmem : d ∈ Text.ofNat n := by
    rw [ht]
    exact .head _
  obtain ⟨c, -, rfl⟩ := List.mem_map.mp hmem
  exact ⟨c, t, ht, isDigit_of_mem_ofNat hmem⟩

/-- A digit begins no word. -/
theorem readWord_of_isDigit {c : Char} (h : c.isDigit = true) (t : Text) :
    readWord (.scalar c :: t) = none ∧ readWord (.scalar '-' :: .scalar c :: t) = none := by
  have hne (d : Char) (hd : d.isDigit = false) : CodePoint.scalar d ≠ .scalar c := by
    intro hdc
    rw [CodePoint.scalar.inj hdc, h] at hd
    cases hd
  simp [readWord, words, Text.ofString, Text.dropPrefix?, Text.dropPrefix?.go, hne]

theorem readValue_ofInt (fuel : Nat) {n : Int} (hn : hasFewDigits n.natAbs = true) {r : Text}
    (hr : EndsValue r) :
    readValue (fuel + 1) (Text.ofInt n ++ r) = .ok (int n, r) := by
  have hnone {c : Char} (hc : c.isDigit = true) :
      c ≠ '"' ∧ c ≠ '[' ∧ c ≠ '\x7b' ∧ c ≠ '-' := by
    refine ⟨?_, ?_, ?_, ?_⟩
    all_goals
      rintro rfl
      exact absurd hc (by decide)
  cases n with
  | ofNat n =>
      obtain ⟨c, t, ht, hc⟩ := exists_ofNat_eq_cons n
      have hread := readUnsigned_ofNat false (n := n) hn hr
      obtain ⟨hquote, hbracket, hbrace, hminus⟩ := hnone hc
      rw [ht, List.cons_append] at hread
      rw [Text.ofInt, ht, List.cons_append, readValue, (readWord_of_isDigit hc _).1]
      · dsimp only
        rw [readNumber, hread]
        · rfl
        · intro u hu
          exact hminus (CodePoint.scalar.inj (List.cons.inj hu).1)
      all_goals
        intro u hu
        first
          | exact hquote (CodePoint.scalar.inj (List.cons.inj hu).1)
          | exact hbracket (CodePoint.scalar.inj (List.cons.inj hu).1)
          | exact hbrace (CodePoint.scalar.inj (List.cons.inj hu).1)
  | negSucc n =>
      obtain ⟨c, t, ht, hc⟩ := exists_ofNat_eq_cons (n + 1)
      have hread := readUnsigned_ofNat true hn hr
      rw [Int.natAbs_negSucc, Nat.succ_eq_add_one, ht, List.cons_append] at hread
      rw [Text.ofInt, ht, List.cons_append, List.cons_append, readValue, (readWord_of_isDigit hc _).2]
      · dsimp only
        rw [readNumber, hread]
        rfl
      all_goals exact nofun

theorem readValue_printString (fuel : Nat) (ascii : Bool) {t : Text}
    (ht : ascii = true → t.IsScalar) (r : Text) :
    readValue (fuel + 1) (printString ascii t ++ r) = .ok (str t, r) := by
  rw [printString, List.cons_append, List.append_assoc, List.singleton_append, readValue,
    readString_escaped ascii ht]

/-! ## Lists and objects -/

section Parts

variable {l : Layout}

/-- Whether a value is read back from its written form, at any depth and whatever stands behind it. -/
def ReadsBack (l : Layout) (v : Json) : Prop :=
  ∀ (depth fuel : Nat) (r : Text), (printAt l depth v).length ≤ fuel → EndsValue r →
    readValue fuel (printAt l depth v ++ r) = .ok (v, r)

theorem formBegun_of_isGap {c : CodePoint} (h : isGap c = true) : formBegun c = none := by
  unfold isGap at h
  split at h
  all_goals first | rfl | cases h

/-- A written value begins neither with a gap nor with a closing bracket. -/
theorem exists_printAt_append_eq_cons (l : Layout) {v : Json} (hv : v.IsExact) (depth : Nat)
    (r : Text) :
    ∃ c t, printAt l depth v ++ r = c :: t ∧ isGap c = false ∧ c ≠ .scalar ']' := by
  obtain ⟨c, t, hc, hform⟩ := printAt_begins l hv depth
  refine ⟨c, t ++ r, by rw [hc, List.cons_append], ?_, ?_⟩
  · by_contra hgap
    rw [formBegun_of_isGap (Bool.not_eq_false _ ▸ hgap)] at hform
    cases hform
  · rintro rfl
    cases hform

theorem skipGap_append_printAt {gap : Text} (hgap : IsGap gap) (l : Layout) {v : Json}
    (hv : v.IsExact) (depth : Nat) (r : Text) :
    skipGap (gap ++ (printAt l depth v ++ r)) = printAt l depth v ++ r := by
  obtain ⟨c, t, hc, hstart, -⟩ := exists_printAt_append_eq_cons l hv depth r
  refine skipGap_append hgap ?_
  rw [hc]
  intro d hd
  rwa [← Option.some.inj hd]

/-- What is written of more parts, each on its line behind a separator. -/
def following {α : Type} (l : Layout) (depth : Nat) (write : α → Text) (xs : List α) : Text :=
  xs.flatMap fun x => l.itemSeparator ++ (l.lineStart depth ++ write x)

theorem following_cons {α : Type} {separator : Text} (hitem : l.itemSeparator = .scalar ',' :: separator)
    (depth : Nat) (write : α → Text) (x : α) (xs : List α) :
    following l depth write (x :: xs) =
      .scalar ',' :: ((separator ++ l.lineStart depth) ++ (write x ++ following l depth write xs)) := by
  simp only [following, List.flatMap_cons, hitem, List.cons_append, List.append_assoc]

theorem endsValue_following {α : Type} (hl : l.Separates) (depth : Nat) (write : α → Text)
    (xs : List α) {gap : Text} (hgap : IsGap gap) {c : CodePoint}
    (hc : c ∈ [CodePoint.scalar ',', .scalar ']', .scalar '\x7d']) (r : Text) :
    EndsValue (following l depth write xs ++ (gap ++ c :: r)) := by
  cases xs with
  | nil => exact endsValue_gap_append hgap hc r
  | cons x xs =>
      obtain ⟨separator, hitem, -⟩ := hl.item
      rw [following_cons hitem]
      intro d hd
      rw [← Option.some.inj hd]
      exact .inr (.head _)

theorem printItems_cons (l : Layout) (depth : Nat) (v : Json) (vs : List Json) :
    printItems l depth (v :: vs) =
      l.lineStart depth ++ (printAt l depth v ++ following l depth (printAt l depth) vs) := by
  induction vs generalizing v with
  | nil => rw [printItems, following, List.flatMap_nil, List.append_nil]
  | cons w ws ih =>
      rw [printItems, ih, following, following, List.flatMap_cons]
      · simp only [List.append_assoc]
      · exact nofun

/-- Items are read back up to their closing bracket. -/
theorem readItems_printed (hl : l.Separates) {v : Json} {vs : List Json}
    (h : ∀ w ∈ v :: vs, w.IsExact ∧ ReadsBack l w) (depth : Nat) {gap : Text} (hgap : IsGap gap)
    (r : Text) {fuel : Nat}
    (hfuel : (printAt l depth v ++ following l depth (printAt l depth) vs).length < fuel) :
    readItems fuel (printAt l depth v ++
      (following l depth (printAt l depth) vs ++ (gap ++ .scalar ']' :: r))) =
        .ok (v :: vs, r) := by
  induction vs generalizing v fuel with
  | nil =>
      obtain ⟨fuel, rfl⟩ := Nat.exists_eq_add_one_of_ne_zero (Nat.ne_zero_of_lt hfuel)
      rw [following, List.flatMap_nil, List.append_nil] at hfuel
      have hread := (h v (.head _)).2 depth fuel (gap ++ .scalar ']' :: r) (Nat.le_of_lt_succ hfuel)
        (endsValue_gap_append hgap (by decide) r)
      have hclose : skipGap (gap ++ .scalar ']' :: r) = .scalar ']' :: r :=
        skipGap_append hgap (by simp [isGap])
      rw [following, List.flatMap_nil, List.nil_append, readItems, hread]
      simp only [hclose]
  | cons w ws ih =>
      obtain ⟨fuel, rfl⟩ := Nat.exists_eq_add_one_of_ne_zero (Nat.ne_zero_of_lt hfuel)
      obtain ⟨separator, hitem, hseparator⟩ := hl.item
      have hends := endsValue_following hl depth (printAt l depth) (w :: ws) hgap
        (c := .scalar ']') (by decide) r
      rw [following_cons hitem] at hfuel hends ⊢
      simp only [List.length_append, List.length_cons] at hfuel
      have hread := (h v (.head _)).2 depth fuel _ (by omega) hends
      have hlength : (printAt l depth w ++ following l depth (printAt l depth) ws).length < fuel := by
        rw [List.length_append]
        omega
      have hrest := ih (fun x hx => h x (.tail _ hx)) hlength
      have hstart := skipGap_append_printAt
        (isGap_append.mpr ⟨hseparator, isGap_lineStart l depth⟩) l (h w (.tail _ (.head _))).1 depth
        (following l depth (printAt l depth) ws ++ (gap ++ .scalar ']' :: r))
      rw [readItems, hread]
      simp only [List.cons_append, List.append_assoc] at hstart hrest ⊢
      rw [skipGap_cons rfl]
      simp only [hstart, hrest, Except.map]

/-- The written form of an entry. -/
def entryText (l : Layout) (depth : Nat) (e : Text × Json) : Text :=
  printString l.ascii e.1 ++ (l.nameSeparator ++ printAt l depth e.2)

theorem printEntries_cons (l : Layout) (depth : Nat) (e : Text × Json) (es : List (Text × Json)) :
    printEntries l depth (e :: es) =
      l.lineStart depth ++ (entryText l depth e ++ following l depth (entryText l depth) es) := by
  induction es generalizing e with
  | nil => rw [printEntries, following, List.flatMap_nil, List.append_nil, entryText]
  | cons f fs ih =>
      rw [printEntries, ih, following, following, List.flatMap_cons]
      · simp only [entryText, List.append_assoc]
      · exact nofun

theorem skipGap_append_entryText {gap : Text} (hgap : IsGap gap) (l : Layout) (depth : Nat)
    (e : Text × Json) (r : Text) :
    skipGap (gap ++ (entryText l depth e ++ r)) = entryText l depth e ++ r :=
  skipGap_append hgap (by simp [entryText, printString, isGap])

/-- An entry is read back, as the last one before a closing brace and as one before a comma. -/
theorem readEntries_entryText (hl : l.Separates) {name : Text} {v : Json}
    (hname : name.IsScalar) (hexact : v.IsExact) (hvalue : ReadsBack l v) (depth : Nat)
    {r : Text} (hr : EndsValue r) {fuel : Nat} (hfuel : (entryText l depth (name, v)).length ≤ fuel) :
    (∀ rest, skipGap r = .scalar '\x7d' :: rest →
      readEntries (fuel + 1) (entryText l depth (name, v) ++ r) = .ok ([(name, v)], rest)) ∧
    ∀ r', skipGap r = .scalar ',' :: r' →
      readEntries (fuel + 1) (entryText l depth (name, v) ++ r) =
        (readEntries fuel (skipGap r')).map fun (es, rest) => ((name, v) :: es, rest) := by
  obtain ⟨separator, hcolon, hseparator⟩ := hl.name
  have hstart := skipGap_append_printAt hseparator l hexact depth r
  rw [entryText, hcolon] at hfuel
  simp only [List.length_append, List.length_cons] at hfuel
  have hread := hvalue depth fuel r (by omega) hr
  rw [entryText, printString, hcolon]
  simp only [List.cons_append, List.append_assoc, List.nil_append] at hstart ⊢
  rw [readEntries, readString_escaped l.ascii fun _ => hname]
  dsimp only
  rw [skipGap_cons rfl]
  constructor
  · intro rest hclose
    simp only [hstart, hread, hclose]
  · intro r' hcomma
    simp only [hstart, hread, hcomma]

/-- Entries are read back up to their closing brace. -/
theorem readEntries_printed (hl : l.Separates) {e : Text × Json} {es : List (Text × Json)}
    (h : ∀ f ∈ e :: es, f.1.IsScalar ∧ f.2.IsExact ∧ ReadsBack l f.2) (depth : Nat) {gap : Text}
    (hgap : IsGap gap) (r : Text) {fuel : Nat}
    (hfuel : (entryText l depth e ++ following l depth (entryText l depth) es).length < fuel) :
    readEntries fuel (entryText l depth e ++
      (following l depth (entryText l depth) es ++ (gap ++ .scalar '\x7d' :: r))) =
        .ok (e :: es, r) := by
  induction es generalizing e fuel with
  | nil =>
      obtain ⟨fuel, rfl⟩ := Nat.exists_eq_add_one_of_ne_zero (Nat.ne_zero_of_lt hfuel)
      obtain ⟨hname, hexact, hvalue⟩ := h e (.head _)
      rw [following, List.flatMap_nil, List.append_nil] at hfuel
      have hclose : skipGap (gap ++ .scalar '\x7d' :: r) = .scalar '\x7d' :: r :=
        skipGap_append hgap (by simp [isGap])
      rw [following, List.flatMap_nil, List.nil_append]
      exact (readEntries_entryText hl hname hexact hvalue depth
        (endsValue_gap_append hgap (by decide) r) (Nat.le_of_lt_succ hfuel)).1 r hclose
  | cons f fs ih =>
      obtain ⟨fuel, rfl⟩ := Nat.exists_eq_add_one_of_ne_zero (Nat.ne_zero_of_lt hfuel)
      obtain ⟨hname, hexact, hvalue⟩ := h e (.head _)
      obtain ⟨separator, hitem, hseparator⟩ := hl.item
      have hends := endsValue_following hl depth (entryText l depth) (f :: fs) hgap
        (c := .scalar '\x7d') (by decide) r
      rw [following_cons hitem] at hfuel hends ⊢
      simp only [List.length_append, List.length_cons] at hfuel
      have hlength : (entryText l depth f ++ following l depth (entryText l depth) fs).length < fuel := by
        rw [List.length_append]
        omega
      have hrest := ih (fun x hx => h x (.tail _ hx)) hlength
      have hstart := skipGap_append_entryText
        (isGap_append.mpr ⟨hseparator, isGap_lineStart l depth⟩) l depth f
        (following l depth (entryText l depth) fs ++ (gap ++ .scalar '\x7d' :: r))
      have hown : (entryText l depth e).length ≤ fuel := by omega
      simp only [List.cons_append, List.append_assoc] at hstart hrest hends ⊢
      rw [(readEntries_entryText hl hname hexact hvalue depth hends hown).2 _ (skipGap_cons rfl _)]
      simp only [hstart, hrest, Except.map]

/-- A list is read back where its items are. -/
theorem readValue_arr (hl : l.Separates) {v : Json} {vs : List Json}
    (h : ∀ w ∈ v :: vs, w.IsExact ∧ ReadsBack l w) {depth fuel : Nat}
    (hfuel : (printAt l depth (.arr (v :: vs))).length ≤ fuel + 1) (r : Text) :
    readValue (fuel + 1) (printAt l depth (.arr (v :: vs)) ++ r) = .ok (.arr (v :: vs), r) := by
  have hprint : printAt l depth (.arr (v :: vs)) = .scalar '[' ::
      (printItems l (depth + 1) (v :: vs) ++ (l.lineStart depth ++ [.scalar ']'])) := by
    rw [printAt]
    exact nofun
  rw [hprint, printItems_cons] at hfuel ⊢
  simp only [List.length_append, List.length_cons] at hfuel
  have hlength : (printAt l (depth + 1) v ++
      following l (depth + 1) (printAt l (depth + 1)) vs).length < fuel := by
    rw [List.length_append]
    omega
  have hitems := readItems_printed hl h (depth + 1) (isGap_lineStart l depth) r hlength
  have hstart := skipGap_append_printAt (isGap_lineStart l (depth + 1)) l (h v (.head _)).1
    (depth + 1) (following l (depth + 1) (printAt l (depth + 1)) vs ++
      (l.lineStart depth ++ .scalar ']' :: r))
  obtain ⟨c, t, hc, -, hclose⟩ := exists_printAt_append_eq_cons l (h v (.head _)).1 (depth + 1)
    (following l (depth + 1) (printAt l (depth + 1)) vs ++ (l.lineStart depth ++ .scalar ']' :: r))
  simp only [List.cons_append, List.append_assoc, List.nil_append]
  rw [readValue]
  simp only [hstart]
  rw [hc] at hitems ⊢
  split
  · rename_i heq
    exact absurd (List.cons.inj heq).1 hclose
  · rw [hitems]
    rfl

/-- An object is read back where its values are. -/
theorem readValue_obj (hl : l.Separates) {e : Text × Json} {es : List (Text × Json)}
    (hdistinct : Table.Distinct (e :: es))
    (h : ∀ f ∈ e :: es, f.1.IsScalar ∧ f.2.IsExact ∧ ReadsBack l f.2) {depth fuel : Nat}
    (hfuel : (printAt l depth (.obj (e :: es))).length ≤ fuel + 1) (r : Text) :
    readValue (fuel + 1) (printAt l depth (.obj (e :: es)) ++ r) = .ok (.obj (e :: es), r) := by
  have hprint : printAt l depth (.obj (e :: es)) = .scalar '\x7b' ::
      (printEntries l (depth + 1) (e :: es) ++ (l.lineStart depth ++ [.scalar '\x7d'])) := by
    rw [printAt]
    exact nofun
  rw [hprint, printEntries_cons] at hfuel ⊢
  simp only [List.length_append, List.length_cons] at hfuel
  have hlength : (entryText l (depth + 1) e ++
      following l (depth + 1) (entryText l (depth + 1)) es).length < fuel := by
    rw [List.length_append]
    omega
  have hentries := readEntries_printed hl h (depth + 1) (isGap_lineStart l depth) r hlength
  have hstart := skipGap_append_entryText (isGap_lineStart l (depth + 1)) l (depth + 1) e
    (following l (depth + 1) (entryText l (depth + 1)) es ++
      (l.lineStart depth ++ .scalar '\x7d' :: r))
  simp only [List.cons_append, List.append_assoc, List.nil_append]
  rw [readValue]
  simp only [hstart]
  split
  · rename_i heq
    cases heq
  · rw [hentries]
    change Except.ok (obj (Table.ofEntries (e :: es)), r) = _
    rw [Table.ofEntries_of_distinct hdistinct]

theorem length_printAt_pos (l : Layout) {v : Json} (hv : v.IsExact) (depth : Nat) :
    0 < (printAt l depth v).length := by
  obtain ⟨c, t, hc, -⟩ := printAt_begins l hv depth
  rw [hc]
  exact Nat.succ_pos _

/-- Every written form takes one step at least. -/
theorem readsBack_of_pos {v : Json} (hv : v.IsExact)
    (h : ∀ (depth fuel : Nat) (r : Text), (printAt l depth v).length ≤ fuel + 1 → EndsValue r →
      readValue (fuel + 1) (printAt l depth v ++ r) = .ok (v, r)) :
    ReadsBack l v := by
  intro depth fuel r hfuel hr
  obtain ⟨fuel, rfl⟩ := Nat.exists_eq_add_one_of_ne_zero
    (Nat.ne_zero_of_lt ((length_printAt_pos l hv depth).trans_le hfuel))
  exact h depth fuel r hfuel hr

/-- Portable values are read back in every layout that separates their parts. -/
theorem IsPortable.readsBack (hl : l.Separates) {v : Json} (h : v.IsPortable) : ReadsBack l v := by
  refine readsBack_of_pos h.isExact ?_
  intro depth fuel r hfuel hr
  induction h generalizing depth fuel r with
  | null => rfl
  | bool b => cases b <;> rfl
  | int h => exact readValue_ofInt fuel h hr
  | str h => exact readValue_printString fuel l.ascii (fun _ => h) r
  | @arr items h ih =>
      cases items with
      | nil => rfl
      | cons v vs =>
          have hparts : ∀ w ∈ v :: vs, w.IsExact ∧ ReadsBack l w := fun w hw =>
            ⟨(h w hw).isExact, readsBack_of_pos (h w hw).isExact (ih w hw)⟩
          exact readValue_arr hl hparts hfuel r
  | @obj entries hdistinct hnames hvalues ih =>
      cases entries with
      | nil => rfl
      | cons e es =>
          have hparts : ∀ f ∈ e :: es, f.1.IsScalar ∧ f.2.IsExact ∧ ReadsBack l f.2 := fun f hf =>
            ⟨hnames f hf, (hvalues f hf).isExact,
              readsBack_of_pos (hvalues f hf).isExact (ih f hf)⟩
          exact readValue_obj hl hdistinct hparts hfuel r

/-- A portable value is read back from its written form. -/
theorem IsPortable.read_print {v : Json} (h : v.IsPortable) (hl : l.Separates) :
    read (print l v) = .ok v := by
  have hread := h.readsBack hl 0 ((printAt l 0 v).length + 1) [] (Nat.le_succ _) nofun
  have hstart := skipGap_append_printAt isGap_nil l h.isExact 0 []
  rw [List.append_nil] at hread hstart
  rw [List.nil_append] at hstart
  rw [read, print, hstart, hread]
  rfl

end Parts

/-- The canonical form is read back as a value that says the same. -/
theorem IsPortable.read_canonicalText {v : Json} (h : v.IsPortable) :
    ∃ w, read v.canonicalText = .ok w ∧ Reordered v w :=
  ⟨v.inOrder, h.inOrder.read_print separates_compact, .inOrder h.isExact⟩

end Json

end ArticleExport
