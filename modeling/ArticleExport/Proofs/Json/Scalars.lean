import ArticleExport.Article.Date
import ArticleExport.Proofs.Json.Reordering

/-!
# Values that can be written to a file

The written form of a value has a byte form exactly when no text in the value has a
lone surrogate.  So it does not depend on the layout, nor on the order of names,
whether a value can be written.
-/

namespace ArticleExport

namespace Text

theorem isScalar_nil : IsScalar [] := by
  intro c hc
  cases hc

theorem isScalar_append {s t : Text} : IsScalar (s ++ t) ↔ IsScalar s ∧ IsScalar t :=
  List.forall_mem_append

theorem isScalar_cons {c : CodePoint} {t : Text} :
    IsScalar (c :: t) ↔ c.isScalar = true ∧ IsScalar t :=
  List.forall_mem_cons

theorem isScalar_map_scalar (cs : List Char) : IsScalar (cs.map CodePoint.scalar) := by
  intro c hc
  obtain ⟨a, -, rfl⟩ := List.mem_map.mp hc
  rfl

theorem isScalar_ofString (s : String) : IsScalar s :=
  isScalar_map_scalar s.toList

theorem isScalar_ofNat (n : Nat) : IsScalar (ofNat n) :=
  isScalar_map_scalar (Nat.toDigits 10 n)

theorem isScalar_ofInt (n : Int) : IsScalar (ofInt n) := by
  cases n with
  | ofNat n => exact isScalar_ofNat n
  | negSucc n => exact isScalar_cons.mpr ⟨rfl, isScalar_ofNat _⟩

theorem isScalar_replicate (n : Nat) (c : Char) :
    IsScalar (List.replicate n (CodePoint.scalar c)) := by
  intro d hd
  obtain ⟨-, rfl⟩ := List.mem_replicate.mp hd
  rfl

end Text

open Text

/-! ## Dates and numbers -/

namespace Moment

theorem isScalar_padded (width n : Nat) : IsScalar (padded width n) :=
  isScalar_append.mpr ⟨isScalar_replicate _ '0', isScalar_ofNat n⟩

theorem isScalar_offsetText (microseconds : Int) : IsScalar (offsetText microseconds) := by
  rw [offsetText]
  have hsign : IsScalar (if microseconds < 0 then ("-" : Text) else "+") := by
    split <;> exact isScalar_ofString _
  refine isScalar_append.mpr ⟨isScalar_append.mpr ⟨?_, ?_⟩, ?_⟩
  · simp only [isScalar_append]
    exact ⟨⟨⟨hsign, isScalar_padded _ _⟩, isScalar_ofString ":"⟩, isScalar_padded _ _⟩
  · split
    · exact isScalar_nil
    · exact isScalar_append.mpr ⟨isScalar_ofString ":", isScalar_padded _ _⟩
  · split
    · exact isScalar_nil
    · exact isScalar_append.mpr ⟨isScalar_ofString ".", isScalar_padded _ _⟩

theorem isScalar_text (m : Moment) : IsScalar m.text := by
  rw [text]
  refine isScalar_append.mpr ⟨isScalar_append.mpr ⟨?_, ?_⟩, ?_⟩
  · simp only [isScalar_append, isScalar_padded, isScalar_ofString, and_self]
  · split
    · exact isScalar_nil
    · exact isScalar_append.mpr ⟨isScalar_ofString ".", isScalar_padded _ _⟩
  · cases m.offset with
    | none => exact isScalar_nil
    | some microseconds => exact isScalar_offsetText microseconds

end Moment

theorem isScalar_write_document (x : Float) : IsScalar (DecimalNotation.document.write x) := by
  rw [DecimalNotation.write]
  cases FloatValue.ofFloat x with
  | nan => exact isScalar_ofString "NaN"
  | infinite negative =>
      cases negative with
      | true => exact isScalar_cons.mpr ⟨rfl, isScalar_ofString "Infinity"⟩
      | false => exact isScalar_ofString "Infinity"
  | finite negative m q => exact isScalar_map_scalar _

/-! ## Values without lone surrogates -/

namespace Json

/-- A value in which no text, be it a value or a name, has a lone surrogate. -/
inductive IsScalar : Json → Prop where
  | null : IsScalar null
  | bool (b : Bool) : IsScalar (bool b)
  | int (n : Int) : IsScalar (int n)
  | float (x : Float) : IsScalar (float x)
  | str {t : Text} (h : t.IsScalar) : IsScalar (str t)
  | arr {items : List Json} (h : ∀ v ∈ items, IsScalar v) : IsScalar (arr items)
  | obj {entries : List (Text × Json)} (hnames : ∀ e ∈ entries, e.1.IsScalar)
      (hvalues : ∀ e ∈ entries, IsScalar e.2) : IsScalar (obj entries)
  | keyed {entries : List (Key × Json)} (hnames : ∀ e ∈ entries, e.1.spelling.IsScalar)
      (hvalues : ∀ e ∈ entries, IsScalar e.2) : IsScalar (keyed entries)

theorem isScalar_str {t : Text} : IsScalar (.str t) ↔ t.IsScalar :=
  ⟨fun | .str h => h, .str⟩

theorem isScalar_arr {items : List Json} : IsScalar (.arr items) ↔ ∀ v ∈ items, IsScalar v :=
  ⟨fun | .arr h => h, .arr⟩

theorem isScalar_obj {entries : List (Text × Json)} :
    IsScalar (.obj entries) ↔ ∀ e ∈ entries, e.1.IsScalar ∧ IsScalar e.2 :=
  ⟨fun | .obj hnames hvalues => fun e he => ⟨hnames e he, hvalues e he⟩,
    fun h => .obj (fun e he => (h e he).1) fun e he => (h e he).2⟩

theorem isScalar_keyed {entries : List (Key × Json)} :
    IsScalar (.keyed entries) ↔ ∀ e ∈ entries, e.1.spelling.IsScalar ∧ IsScalar e.2 :=
  ⟨fun | .keyed hnames hvalues => fun e he => ⟨hnames e he, hvalues e he⟩,
    fun h => .keyed (fun e he => (h e he).1) fun e he => (h e he).2⟩

/-- Putting names in order changes no text of a value. -/
theorem isScalar_inOrder_iff : ∀ v : Json, IsScalar v.inOrder ↔ IsScalar v
  | .arr items => by
      rw [Json.inOrder, inOrderItems_eq_map, isScalar_arr, isScalar_arr, List.forall_mem_map]
      exact forall₂_congr fun v hv => isScalar_inOrder_iff v
  | .obj entries => by
      rw [Json.inOrder, inOrderEntries_eq_map, isScalar_obj, isScalar_obj]
      simp only [(sortEntries_perm _).mem_iff, List.forall_mem_map]
      exact forall₂_congr fun e he => and_congr_right fun _ => isScalar_inOrder_iff e.2
  | .keyed entries => by
      rw [Json.inOrder, inOrderKeyed_eq_map, isScalar_keyed, isScalar_keyed]
      simp only [sortKeyed, (List.mergeSort_perm _ _).mem_iff, List.forall_mem_map]
      exact forall₂_congr fun e he => and_congr_right fun _ => isScalar_inOrder_iff e.2
  | .null | .bool _ | .int _ | .float _ | .str _ => Iff.rfl
termination_by v => v
decreasing_by
  · have hitem := List.sizeOf_lt_of_mem hv
    simp only [arr.sizeOf_spec]
    omega
  · have hentry := List.sizeOf_lt_of_mem he
    obtain ⟨k, v⟩ := e
    simp only [obj.sizeOf_spec, Prod.mk.sizeOf_spec] at hentry ⊢
    omega
  · have hentry := List.sizeOf_lt_of_mem he
    obtain ⟨k, v⟩ := e
    simp only [keyed.sizeOf_spec, Prod.mk.sizeOf_spec] at hentry ⊢
    omega

/-! ## Written forms -/

theorem isScalar_unitEscape (n : Nat) : Text.IsScalar (unitEscape n) :=
  isScalar_map_scalar _

/-- Where nothing but control characters is escaped, a lone surrogate stays one. -/
theorem isScalar_escapePoint_iff (c : CodePoint) :
    Text.IsScalar (escapePoint false c) ↔ c.isScalar = true := by
  unfold escapePoint
  split
  case h_8 =>
    simp only [Bool.false_and, Bool.false_eq_true, if_false]
    cases c with
    | scalar c =>
        split
        · simp [isScalar_unitEscape, CodePoint.isScalar]
        · simp [isScalar_cons, isScalar_nil]
    | surrogate n =>
        rw [if_neg (by simp only [CodePoint.value]; omega)]
        simp [isScalar_cons, isScalar_nil]
  all_goals simp [isScalar_ofString, CodePoint.isScalar]

theorem isScalar_printString_iff (t : Text) :
    Text.IsScalar (printString false t) ↔ t.IsScalar := by
  have hquote : CodePoint.isScalar (.scalar '"') = true := rfl
  rw [printString, isScalar_cons, isScalar_append, isScalar_cons]
  simp only [hquote, isScalar_nil, and_true, true_and]
  constructor
  · intro h c hc
    refine (isScalar_escapePoint_iff c).mp ?_
    intro d hd
    exact h d (List.mem_flatMap.mpr ⟨c, hc, hd⟩)
  · intro h d hd
    obtain ⟨c, hc, hd⟩ := List.mem_flatMap.mp hd
    exact (isScalar_escapePoint_iff c).mpr (h c hc) d hd

/-- A layout that escapes no more than it has to, with separators that have a byte form. -/
structure Layout.IsScalar (l : Layout) : Prop where
  itemSeparator : l.itemSeparator.IsScalar
  nameSeparator : l.nameSeparator.IsScalar
  ascii : l.ascii = false

theorem isScalar_indented : Layout.indented.IsScalar :=
  ⟨isScalar_ofString ",", isScalar_ofString ": ", rfl⟩

theorem isScalar_compact : Layout.compact.IsScalar :=
  ⟨isScalar_ofString ",", isScalar_ofString ":", rfl⟩

theorem isScalar_lineStart (l : Layout) (depth : Nat) : Text.IsScalar (l.lineStart depth) := by
  rw [Layout.lineStart]
  cases l.indent with
  | none => exact isScalar_nil
  | some n => exact isScalar_cons.mpr ⟨rfl, isScalar_replicate _ ' '⟩

section Printing

variable {l : Layout}

mutual

theorem isScalar_printAt_iff (hl : l.IsScalar) (depth : Nat) (v : Json) :
    Text.IsScalar (printAt l depth v) ↔ v.IsScalar := by
  have hend : ∀ c, Text.IsScalar [CodePoint.scalar c] := fun c =>
    isScalar_cons.mpr ⟨rfl, isScalar_nil⟩
  match v with
  | .null => exact iff_of_true (isScalar_ofString _) .null
  | .bool true => exact iff_of_true (isScalar_ofString _) (.bool _)
  | .bool false => exact iff_of_true (isScalar_ofString _) (.bool _)
  | .int n => exact iff_of_true (isScalar_ofInt n) (.int n)
  | .float x => exact iff_of_true (isScalar_write_document x) (.float x)
  | .str t =>
      rw [printAt, hl.ascii, isScalar_printString_iff, isScalar_str]
  | .arr [] => exact iff_of_true (isScalar_ofString _) (.arr (by simp))
  | .arr (v :: vs) =>
      rw [printAt, isScalar_arr, ← isScalar_printItems_iff hl (depth + 1)]
      · simp [isScalar_cons, isScalar_append, isScalar_lineStart, hend, CodePoint.isScalar]
      · exact List.cons_ne_nil v vs
  | .obj [] => exact iff_of_true (isScalar_ofString _) (.obj (by simp) (by simp))
  | .obj (e :: es) =>
      rw [printAt, isScalar_obj, ← isScalar_printEntries_iff hl (depth + 1)]
      · simp [isScalar_cons, isScalar_append, isScalar_lineStart, hend, CodePoint.isScalar]
      · exact List.cons_ne_nil e es
  | .keyed [] => exact iff_of_true (isScalar_ofString _) (.keyed (by simp) (by simp))
  | .keyed (e :: es) =>
      rw [printAt, isScalar_keyed, ← isScalar_printKeyed_iff hl (depth + 1)]
      · simp [isScalar_cons, isScalar_append, isScalar_lineStart, hend, CodePoint.isScalar]
      · exact List.cons_ne_nil e es

theorem isScalar_printItems_iff (hl : l.IsScalar) (depth : Nat) (items : List Json) :
    Text.IsScalar (printItems l depth items) ↔ ∀ v ∈ items, v.IsScalar := by
  match items with
  | [] => simp [printItems, isScalar_nil]
  | [v] =>
      simp [printItems, isScalar_append, isScalar_lineStart, isScalar_printAt_iff hl depth v]
  | v :: w :: vs =>
      rw [List.forall_mem_cons, ← isScalar_printItems_iff hl depth (w :: vs)]
      simp [printItems, isScalar_append, isScalar_lineStart, hl.itemSeparator,
        isScalar_printAt_iff hl depth v]

theorem isScalar_printEntries_iff (hl : l.IsScalar) (depth : Nat) (entries : List (Text × Json)) :
    Text.IsScalar (printEntries l depth entries) ↔
      ∀ e ∈ entries, e.1.IsScalar ∧ e.2.IsScalar := by
  match entries with
  | [] => simp [printEntries, isScalar_nil]
  | [(k, v)] =>
      simp [printEntries, isScalar_append, isScalar_lineStart, hl.nameSeparator, hl.ascii,
        isScalar_printString_iff, isScalar_printAt_iff hl depth v]
  | (k, v) :: e :: es =>
      rw [List.forall_mem_cons, ← isScalar_printEntries_iff hl depth (e :: es)]
      simp [printEntries, isScalar_append, isScalar_lineStart, hl.nameSeparator,
        hl.itemSeparator, hl.ascii, isScalar_printString_iff, isScalar_printAt_iff hl depth v,
        and_assoc]

theorem isScalar_printKeyed_iff (hl : l.IsScalar) (depth : Nat) (entries : List (Key × Json)) :
    Text.IsScalar (printKeyed l depth entries) ↔
      ∀ e ∈ entries, e.1.spelling.IsScalar ∧ e.2.IsScalar := by
  match entries with
  | [] => simp [printKeyed, isScalar_nil]
  | [(k, v)] =>
      simp [printKeyed, isScalar_append, isScalar_lineStart, hl.nameSeparator, hl.ascii,
        isScalar_printString_iff, isScalar_printAt_iff hl depth v]
  | (k, v) :: e :: es =>
      rw [List.forall_mem_cons, ← isScalar_printKeyed_iff hl depth (e :: es)]
      simp [printKeyed, isScalar_append, isScalar_lineStart, hl.nameSeparator,
        hl.itemSeparator, hl.ascii, isScalar_printString_iff, isScalar_printAt_iff hl depth v,
        and_assoc]

end

/-- A value has a byte form exactly when no text in it has a lone surrogate. -/
theorem isScalar_print_iff (hl : l.IsScalar) (v : Json) :
    Text.IsScalar (print l v) ↔ v.IsScalar :=
  isScalar_printAt_iff hl 0 v

instance (v : Json) : Decidable v.IsScalar :=
  decidable_of_iff _ (isScalar_print_iff isScalar_compact v)

theorem isScalar_canonicalText_iff (v : Json) : Text.IsScalar v.canonicalText ↔ v.IsScalar :=
  (isScalar_print_iff isScalar_compact _).trans (isScalar_inOrder_iff v)

end Printing

end Json

end ArticleExport
