import ArticleExport.Proofs.Spec.Conditions
import Mathlib.Data.List.TakeWhile

/-!
# What is a placeholder

A text is a placeholder of a key just if it is the key between two marks, with or without a line break
behind them.  Every other text of a template resolves to itself, and so do the texts in conditions of
variants.  They come out as they are wherever what they stand in comes out; from the fields of variants
the empty ones are pruned.
-/

namespace ArticleExport.Spec

variable {lookup : Text → Json}

/-- An ASCII letter, a digit, an underscore or a hyphen. -/
def IsKeyLetter (c : CodePoint) : Prop :=
  ∃ x : Char, c = .scalar x ∧
    ('A' ≤ x ∧ x ≤ 'Z' ∨ 'a' ≤ x ∧ x ≤ 'z' ∨ '0' ≤ x ∧ x ≤ '9' ∨ x = '_' ∨ x = '-')

/-- A key consists of one or more such characters. -/
def IsKey (key : Text) : Prop := key ≠ [] ∧ ∀ c ∈ key, IsKeyLetter c

/-- A key between marks. -/
def marked (key : Text) : Text := .scalar '#' :: (key ++ [.scalar '#'])

/-- A key between marks, and a line break. -/
def markedLine (key : Text) : Text := marked key ++ [.scalar '\n']

/-! ## Reading placeholders -/

theorem isKeyChar_scalar (x : Char) :
    isKeyChar (.scalar x) = (decide ('A' ≤ x ∧ x ≤ 'Z') || decide ('a' ≤ x) && decide (x ≤ 'z') ||
      decide ('0' ≤ x) && decide (x ≤ '9') || x == '_' || x == '-') := rfl

theorem isKeyChar_iff {c : CodePoint} : isKeyChar c = true ↔ IsKeyLetter c := by
  cases c with
  | surrogate n =>
      refine iff_of_false nofun ?_
      rintro ⟨x, hx, -⟩
      cases hx
  | scalar x =>
      have hletter : IsKeyLetter (.scalar x) ↔
          'A' ≤ x ∧ x ≤ 'Z' ∨ 'a' ≤ x ∧ x ≤ 'z' ∨ '0' ≤ x ∧ x ≤ '9' ∨ x = '_' ∨ x = '-' := by
        simp [IsKeyLetter]
      rw [hletter, isKeyChar_scalar]
      simp only [Bool.or_eq_true, Bool.and_eq_true, decide_eq_true_eq, beq_iff_eq, or_assoc]

theorem exists_eq_mark_cons {text key : Text} (h : token? text = some key) :
    ∃ rest, text = .scalar '#' :: rest := by
  rw [token?.eq_def] at h
  split at h
  · exact ⟨_, rfl⟩
  · cases h

/-- A text that begins with a mark is a placeholder of the characters behind it up to the first that
stands in no key, if there are any and nothing follows but the other mark. -/
theorem token?_mark_eq_some_iff {rest key : Text} :
    token? (.scalar '#' :: rest) = some key ↔
      rest.takeWhile isKeyChar = key ∧ key ≠ [] ∧
        (rest.dropWhile isKeyChar = [.scalar '#'] ∨
          rest.dropWhile isKeyChar = [.scalar '#', .scalar '\n']) := by
  rw [token?]
  constructor
  · intro h
    split at h
    · cases h
    · rename_i hne
      have hkey : rest.takeWhile isKeyChar ≠ [] := fun heq => hne (List.isEmpty_iff.mpr heq)
      split at h
      · rename_i hend
        obtain rfl := Option.some.inj h
        exact ⟨rfl, hkey, .inl hend⟩
      · rename_i hend
        obtain rfl := Option.some.inj h
        exact ⟨rfl, hkey, .inr hend⟩
      · cases h
  · rintro ⟨rfl, hkey, hend⟩
    rw [if_neg (fun hempty => hkey (List.isEmpty_iff.mp hempty))]
    rcases hend with hend | hend
    · rw [hend]
      rfl
    · rw [hend]
      rfl

/-- The characters of a key are read up to the mark behind them. -/
theorem IsKey.takeWhile_append {key : Text} (h : IsKey key) (more : Text) :
    (key ++ .scalar '#' :: more).takeWhile isKeyChar = key ∧
      (key ++ .scalar '#' :: more).dropWhile isKeyChar = .scalar '#' :: more := by
  have hletters : ∀ c ∈ key, isKeyChar c = true := fun c hc => isKeyChar_iff.mpr (h.2 c hc)
  have hmark : ¬ isKeyChar (.scalar '#') = true := by decide
  constructor
  · rw [List.takeWhile_append_of_pos hletters, List.takeWhile_cons_of_neg hmark, List.append_nil]
  · rw [List.dropWhile_append_of_pos hletters, List.dropWhile_cons_of_neg hmark]

theorem markedLine_eq (key : Text) :
    markedLine key = .scalar '#' :: (key ++ [.scalar '#', .scalar '\n']) := by
  rw [markedLine, marked, List.cons_append, List.append_assoc]
  rfl

/-- The placeholders of a key are the key between marks, and the same with a line break. -/
theorem token?_eq_some_iff {text key : Text} :
    token? text = some key ↔ IsKey key ∧ (text = marked key ∨ text = markedLine key) := by
  constructor
  · intro h
    obtain ⟨rest, rfl⟩ := exists_eq_mark_cons h
    obtain ⟨hkey, hne, hend⟩ := token?_mark_eq_some_iff.mp h
    have hletters : ∀ c ∈ key, IsKeyLetter c := by
      intro c hc
      rw [← hkey] at hc
      exact isKeyChar_iff.mp (List.mem_takeWhile_imp hc)
    have hrest : key ++ rest.dropWhile isKeyChar = rest := by
      rw [← hkey, List.takeWhile_append_dropWhile]
    refine ⟨⟨hne, hletters⟩, ?_⟩
    rw [markedLine_eq, marked, ← hrest]
    rcases hend with hend | hend
    · left
      rw [hend]
    · right
      rw [hend]
  · rintro ⟨hkey, rfl | rfl⟩
    · obtain ⟨htake, hdrop⟩ := hkey.takeWhile_append []
      exact token?_mark_eq_some_iff.mpr ⟨htake, hkey.1, .inl hdrop⟩
    · obtain ⟨htake, hdrop⟩ := hkey.takeWhile_append [.scalar '\n']
      rw [markedLine_eq]
      exact token?_mark_eq_some_iff.mpr ⟨htake, hkey.1, .inr hdrop⟩

theorem token?_eq_none_iff {text : Text} :
    token? text = none ↔ ∀ key, IsKey key → text ≠ marked key ∧ text ≠ markedLine key := by
  simp only [Option.eq_none_iff_forall_ne_some, ne_eq, token?_eq_some_iff, not_and, not_or]

/-! ## Texts that stay -/

/-- What becomes of a text in a template: it comes out as it is wherever it stands in a part that is
resolved, and wherever it stands in the conditions of a variant that comes out.  An empty one is kept
only where nothing is pruned. -/
structure CarriesText (lookup : Text → Json) (template resolved : Json) (text : Text) : Prop where
  inPart : ∀ path inVariant, Reaches template path (.str text) inVariant →
    isKept inVariant (.str text) = true →
    ∃ path', ComesOut lookup template path (.str text) path' inVariant ∧
      resolved.Holds path' (.str text)
  inConditions : ∀ path inVariant object items i variant conditions inner,
    Reaches template path (.obj object) inVariant →
    (conditionalKey, .arr items) ∈ object → items[i]? = some (.obj variant) →
    survives lookup variant = true → (conditionsKey, conditions) ∈ variant →
    conditions.Holds inner (.str text) → isKept inVariant (.str text) = true →
    ∃ (path' inner' : Json.Path),
      ComesOut lookup template path (.obj object) path' inVariant ∧ inner'.keys = inner.keys ∧
      resolved.Holds (path' ++ [.key conditionalKey, .item (survivorsBefore lookup items i)] ++
        .key conditionsKey :: inner') (.str text)

theorem outcome_str {text : Text} (h : token? text = none) (inVariant : Bool) :
    outcome lookup inVariant (.str text) = .str text := by
  have hresolve : resolve lookup (.str text) = .str text := by rw [resolve, h]
  cases inVariant with
  | true =>
      rw [outcome, if_pos rfl, hresolve]
      rfl
  | false => rw [outcome, if_neg Bool.false_ne_true, hresolve]

theorem carriesText_resolve {template : Json} (hproper : template.IsProper) {text : Text}
    (h : token? text = none) : CarriesText lookup template (resolve lookup template) text := by
  constructor
  case inPart =>
    intro path inVariant hreaches hkept
    rw [← outcome_str h inVariant] at hkept
    have hplace := hreaches.comesOut hproper hkept
    rw [outcome_str h] at hplace
    exact hplace
  case inConditions =>
    intro path inVariant object items i variant conditions inner hreaches hitems hvariant hs
      hconditions hinner hkept
    obtain ⟨path', entry, hplace, hentry, hget, -⟩ := (carriesConditions_resolve hproper).carried
      path inVariant object items i variant conditions hreaches hitems hvariant hs hconditions
    cases inVariant with
    | false =>
        rw [if_neg Bool.false_ne_true] at hget
        exact ⟨path', inner, hplace, rfl,
          hentry.trans (.entry (Table.mem_of_get?_eq_some hget) hinner)⟩
    | true =>
        have hholds := hreaches.holds.trans
          (.entry hitems (.item hvariant (.entry hconditions (.here conditions))))
        obtain ⟨inner', hmoves⟩ := hinner.exists_moves (hholds.isProper hproper)
        -- The text is not empty, so that pruning drops nothing that it stands in.
        have htext : (Json.str text).isEmpty = false := by simpa [isKept] using hkept
        have hpruned : conditions.prune.Holds inner' (.str text) := hmoves.holds_prune htext
        rw [if_pos rfl,
          Json.nonempty?_of_isEmpty_eq_false (hpruned.isEmpty_eq_false htext)] at hget
        exact ⟨path', inner', hplace, hmoves.keys_eq,
          hentry.trans (.entry (Table.mem_of_get?_eq_some hget) hpruned)⟩

/-- A placeholder is a key between marks, or the same with a line break behind it, and every other text
of a template comes out as it is. -/
theorem substitute_replaces_placeholders_only (s : Spec) :
    (∀ text key, token? text = some key ↔ IsKey key ∧ (text = marked key ∨ text = markedLine key)) ∧
      ∀ values theme template, s.effective theme = .ok template → template.IsProper →
        ∃ resolved, s.substitute values theme = .ok resolved ∧
          ∀ text, (∀ key, IsKey key → text ≠ marked key ∧ text ≠ markedLine key) →
            CarriesText (source (unmarked values) theme) template resolved text := by
  refine ⟨fun _ _ => token?_eq_some_iff, ?_⟩
  intro values theme template htemplate hproper
  refine ⟨_, substitute_of_effective htemplate values, ?_⟩
  intro text htext
  exact carriesText_resolve hproper (token?_eq_none_iff.mpr htext)

/-- A template with texts around placeholders, with marks alone and with a character of no key. -/
def seam : Json := .obj [("lead", "see #a#"), ("marks", .arr ["#a#", "##"]),
  ("conditional", .arr [.obj [("lead", "#a#b#"), ("conditions", .obj [("scheme", "#\u00e9#")])]])]

/-- A theme that brings `seam` for body text. -/
def seamTheme : Theme := ⟨"Seam", [("json_templates", .obj [("body", .obj [("json", seam)])])]⟩

theorem isProper_seam : seam.IsProper := by decide

theorem substitute_replaces_placeholders_only_of_seam :
    seam.IsProper ∧ Reaches seam [.key "marks", .item 1] (.str "##") false ∧
      (∀ key, IsKey key → ("##" : Text) ≠ marked key ∧ ("##" : Text) ≠ markedLine key) ∧
      ∃ resolved, (Spec.mk "body" "json" "JSON" .null).substitute [("a", .null)] seamTheme =
          .ok resolved ∧
        CarriesText (source (unmarked [("a", .null)]) seamTheme) seam resolved "##" ∧
        ∃ path', ComesOut (source (unmarked [("a", .null)]) seamTheme) seam
            [.key "marks", .item 1] (.str "##") path' false ∧
          resolved.Holds path' (.str "##") := by
  have htemplate : (Spec.mk "body" "json" "JSON" .null).effective seamTheme = .ok seam := rfl
  have hreaches : Reaches seam [.key "marks", .item 1] (.str "##") false :=
    .entry (.tail _ (.head _)) (fun h => absurd h (by decide)) (.item rfl (.here _))
  have hmarks : ∀ key, IsKey key → ("##" : Text) ≠ marked key ∧ ("##" : Text) ≠ markedLine key :=
    token?_eq_none_iff.mp (by decide)
  obtain ⟨resolved, hresolved, hcarries⟩ :=
    (substitute_replaces_placeholders_only _).2 [("a", .null)] seamTheme seam htemplate isProper_seam
  have htext := hcarries "##" hmarks
  exact ⟨isProper_seam, hreaches, hmarks, resolved, hresolved, htext,
    htext.inPart _ false hreaches rfl⟩

/-- A text with a line break behind the other mark is no key between marks, and yet it is replaced. -/
theorem replaces_text_with_line_break :
    (∀ key, ("#a#\n" : Text) ≠ marked key) ∧ token? "#a#\n" = some "a" ∧
      (Spec.mk "x" "json" "JSON" (.obj [("b", "#a#\n")])).substitute [("a", .int 1)] seamTheme =
        .ok (.obj [("b", .int 1)]) := by
  refine ⟨?_, by decide, rfl⟩
  intro key heq
  have hlast : some (CodePoint.scalar '\n') = some (.scalar '#') := by
    calc
      some (CodePoint.scalar '\n') = (marked key).getLast? := congrArg List.getLast? heq
      _ = some (.scalar '#') := by rw [marked, ← List.cons_append, List.getLast?_concat]
  exact absurd hlast (by decide)

end ArticleExport.Spec
