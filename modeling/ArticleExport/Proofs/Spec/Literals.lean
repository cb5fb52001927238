import ArticleExport.Proofs.Spec.Leaks

/-!
# Templates that stay as they are

A value with no null, no placeholder and no list of variants in it is a literal: it resolves
to itself, whatever is supplied.  A template without variants whose placeholders are supplied
with literals resolves to a value of that kind, so that resolving it again changes nothing.

There is one exception.  A list that is supplied for a placeholder under `conditional` is no
list of variants in the first run, as the values of placeholders are put in as they are; but
it is one in the second run.
-/

namespace ArticleExport.Spec

variable {lookup : Text → Json}

/-- A value in which the entries of every object are of some sort. -/
def EveryObject (P : Table Json → Prop) (v : Json) : Prop :=
  ∀ path entries, v.Holds path (.obj entries) → P entries

/-- Entries without a list of variants. -/
def LacksVariants (entries : Table Json) : Prop :=
  ∀ e ∈ entries, e.1 = conditionalKey → isList e.2 = false

instance (entries : Table Json) : Decidable (LacksVariants entries) :=
  inferInstanceAs (Decidable (∀ e ∈ entries, e.1 = conditionalKey → isList e.2 = false))

/-- A value with no null, no placeholder and no list of variants in it. -/
structure IsLiteral (v : Json) : Prop where
  clean : IsClean v
  noVariants : EveryObject LacksVariants v

/-- A value that resolves to itself, whatever is supplied. -/
def IsFixed (v : Json) : Prop := ∀ lookup, resolve lookup v = v

/-! ## Objects in values -/

section EveryObject

variable {P : Table Json → Prop}

theorem EveryObject.of_holds {v part : Json} (h : EveryObject P v) {path : Json.Path}
    (hpart : v.Holds path part) : EveryObject P part :=
  fun _ _ hentries => h _ _ (hpart.trans hentries)

theorem everyObject_str (t : Text) : EveryObject P (.str t) := by
  intro path entries hentries
  cases hentries

theorem everyObject_int (n : Int) : EveryObject P (.int n) := by
  intro path entries hentries
  cases hentries

theorem everyObject_arr {items : List Json} (h : ∀ v ∈ items, EveryObject P v) :
    EveryObject P (.arr items) := by
  intro path entries hentries
  cases hentries with
  | item hv hpart => exact h _ (List.mem_of_getElem? hv) _ _ hpart

theorem everyObject_obj {entries : Table Json} (h : ∀ e ∈ entries, EveryObject P e.2)
    (hown : P entries) : EveryObject P (.obj entries) := by
  intro path inner hinner
  cases hinner with
  | here _ => exact hown
  | entry hv hpart => exact h _ hv _ _ hpart

end EveryObject

/-! ## What literals consist of -/

theorem IsLiteral.of_holds {v part : Json} (h : IsLiteral v) {path : Json.Path}
    (hpart : v.Holds path part) : IsLiteral part where
  clean := fun _ _ hinner => h.clean _ _ (hpart.trans hinner)
  noVariants := h.noVariants.of_holds hpart

theorem IsLiteral.isNull_eq_false {v : Json} (h : IsLiteral v) : v.isNull = false :=
  (Bool.or_eq_false_iff.mp (h.clean [] v (.here v))).1

theorem isLiteral_str {t : Text} (h : token? t = none) : IsLiteral (.str t) where
  clean := isClean_str h
  noVariants := everyObject_str t

theorem isLiteral_int (n : Int) : IsLiteral (.int n) := by
  refine ⟨?_, everyObject_int n⟩
  intro path part hpart
  cases hpart
  rfl

theorem isLiteral_arr {items : List Json} (h : ∀ v ∈ items, IsLiteral v) :
    IsLiteral (.arr items) where
  clean := isClean_arr fun v hv => (h v hv).clean
  noVariants := everyObject_arr fun v hv => (h v hv).noVariants

theorem isLiteral_obj {entries : Table Json} (h : ∀ e ∈ entries, IsLiteral e.2)
    (hown : LacksVariants entries) : IsLiteral (.obj entries) where
  clean := isClean_obj fun e he => (h e he).clean
  noVariants := everyObject_obj (fun e he => (h e he).noVariants) hown

/-! ## What resolves to itself -/

theorem isFixed_null : IsFixed .null := fun _ => rfl

theorem isFixed_arr {items : List Json} (h : ∀ v ∈ items, IsFixed v ∧ v.isNull = false) :
    IsFixed (.arr items) := by
  intro lookup
  rw [resolve]
  congr 1
  induction items with
  | nil => rfl
  | cons v vs ih =>
      obtain ⟨⟨hv, hnull⟩, hrest⟩ := List.forall_mem_cons.mp h
      rw [resolveItems, hv lookup, hnull, if_neg Bool.false_ne_true, ih hrest]

/-- An object without a list of variants resolves to its entries, resolved one by one. -/
theorem resolve_obj_of_lacksVariants {entries : Table Json} (h : LacksVariants entries) :
    resolve lookup (.obj entries) = .obj (resolveBase lookup entries) := by
  apply resolve_obj_of_forall
  intro items hitems
  cases h _ hitems rfl

theorem isFixed_obj {entries : Table Json} (h : ∀ e ∈ entries, IsFixed e.2 ∧ e.2.isNull = false)
    (hown : LacksVariants entries) :
    IsFixed (.obj entries) := by
  intro lookup
  rw [resolve_obj_of_lacksVariants hown]
  congr 1
  induction entries with
  | nil => rfl
  | cons e es ih =>
      obtain ⟨k, v⟩ := e
      obtain ⟨⟨hv, hnull⟩, hrest⟩ := List.forall_mem_cons.mp h
      obtain ⟨hfirst, hothers⟩ := List.forall_mem_cons.mp hown
      have hkept : ¬(k = conditionalKey ∧ isList v = true ∨ (resolve lookup v).isNull = true) := by
        rintro (⟨hk, hlist⟩ | hdropped)
        · rw [hfirst hk] at hlist
          cases hlist
        · rw [hv lookup, hnull] at hdropped
          cases hdropped
      rw [resolveBase_cons, if_neg hkept, hv lookup, ih hrest hothers]

/-- A literal resolves to itself. -/
theorem IsLiteral.isFixed {v : Json} (h : IsLiteral v) : IsFixed v := by
  induction v using Json.inductionOnParts with
  | h v ih =>
      have hparts : ∀ step path part, v.Holds (step :: path) part →
          IsFixed part ∧ part.isNull = false := by
        intro step path part hpart
        have hliteral := h.of_holds hpart
        exact ⟨ih step path part hpart hliteral, hliteral.isNull_eq_false⟩
      cases v with
      | str t =>
          intro lookup
          have htoken := (Bool.or_eq_false_iff.mp (h.clean [] _ (.here _))).2
          rw [tokenKey?, Option.isSome_eq_false_iff, Option.isNone_iff_eq_none] at htoken
          rw [resolve, htoken]
      | arr items =>
          apply isFixed_arr
          intro v hv
          obtain ⟨i, hi⟩ := List.mem_iff_getElem?.mp hv
          exact hparts _ _ v (.item hi (.here v))
      | obj entries =>
          apply isFixed_obj
          · intro e he
            exact hparts _ _ e.2 (.entry he (.here _))
          · exact h.noVariants [] entries (.here _)
      | _ => exact fun _ => rfl

/-! ## What resolves to something that resolves to itself -/

/-- No placeholder that stands under `conditional` itself is supplied with a list. -/
def SuppliesNoVariants (lookup : Text → Json) (entries : Table Json) : Prop :=
  ∀ e ∈ entries, e.1 = conditionalKey →
    ∀ key, tokenKey? e.2 = some key → isList (lookup key) = false

/-- A value that resolves to a list is one, or is a placeholder that is supplied with one. -/
theorem isList_resolve {v : Json} (h : isList (resolve lookup v) = true) :
    isList v = true ∨ ∃ key, tokenKey? v = some key ∧ isList (lookup key) = true := by
  cases v with
  | arr items => exact .inl rfl
  | str t =>
      right
      rw [resolve] at h
      cases hkey : token? t with
      | none =>
          rw [hkey] at h
          cases h
      | some key =>
          rw [hkey] at h
          exact ⟨key, hkey, h⟩
  | obj entries =>
      obtain ⟨fields, hfields⟩ : ∃ fields, resolve lookup (.obj entries) = .obj fields := by
        rw [resolve]
        split
        · exact ⟨_, rfl⟩
        · exact ⟨_, rfl⟩
      rw [hfields] at h
      cases h
  | _ => cases h

/-- No list of variants comes out of an object that has none, unless one is supplied for it. -/
theorem lacksVariants_resolveBase {entries : Table Json} (hown : LacksVariants entries)
    (hsupplied : SuppliesNoVariants lookup entries) :
    LacksVariants (resolveBase lookup entries) := by
  rintro ⟨k, w⟩ he hk
  obtain ⟨v, hv, -, rfl, -⟩ := mem_resolveBase.mp he
  apply Bool.eq_false_iff.mpr
  intro hlist
  rcases isList_resolve hlist with hlist | ⟨key, hkey, hlist⟩
  · rw [hown _ hv hk] at hlist
    cases hlist
  · rw [hsupplied _ hv hk key hkey] at hlist
    cases hlist

/-- What a template without variants resolves to, resolves to itself. -/
theorem isFixed_resolve {t : Json} (ht : EveryObject LacksVariants t)
    (hfixed : ∀ key ∈ tokens t, IsFixed (lookup key))
    (hvariants : EveryObject (SuppliesNoVariants lookup) t) :
    IsFixed (resolve lookup t) := by
  induction t using Json.inductionOnParts with
  | h t ih =>
      have hparts : ∀ step path part, t.Holds (step :: path) part →
          (∀ key ∈ tokens part, key ∈ tokens t) → IsFixed (resolve lookup part) := by
        intro step path part hpart htokens
        apply ih step path part hpart (ht.of_holds hpart) _ (hvariants.of_holds hpart)
        intro key hkey
        exact hfixed key (htokens key hkey)
      cases t with
      | str t =>
          rw [resolve]
          cases hkey : token? t with
          | none => exact (isLiteral_str hkey).isFixed
          | some key =>
              apply hfixed key
              rw [tokens, hkey]
              exact List.mem_singleton_self key
      | arr items =>
          rw [resolve, resolveItems_eq]
          apply isFixed_arr
          intro w hw
          obtain ⟨v, hv, hsome⟩ := List.mem_filterMap.mp hw
          rw [resolved?, Option.ite_none_left_eq_some] at hsome
          obtain ⟨hnull, heq⟩ := hsome
          obtain rfl := Option.some.inj heq
          obtain ⟨i, hi⟩ := List.mem_iff_getElem?.mp hv
          constructor
          · apply hparts _ _ v (.item hi (.here v))
            intro key hkey
            exact mem_tokensOfItems.mpr ⟨v, hv, hkey⟩
          · exact Bool.eq_false_iff.mpr hnull
      | obj entries =>
          have hown := ht [] entries (.here _)
          rw [resolve_obj_of_lacksVariants hown]
          apply isFixed_obj
          · rintro ⟨k, w⟩ he
            obtain ⟨v, hv, -, rfl, hnull⟩ := mem_resolveBase.mp he
            refine ⟨?_, hnull⟩
            apply hparts _ _ v (.entry hv (.here v))
            intro key hkey
            exact mem_tokensOfEntries.mpr ⟨_, hv, hkey⟩
          · exact lacksVariants_resolveBase hown (hvariants [] entries (.here _))
      | _ => exact fun _ => rfl

/-! ## Specs -/

/-- The template of a spec counts where the theme has none for it. -/
theorem effective_of_template?_eq_none {s : Spec} {theme : Theme}
    (h : theme.template? s.component s.name = .ok none) :
    s.effective theme = .ok s.template := by
  rw [effective, h]
  rfl

theorem substitute_of_isFixed {s : Spec} {theme : Theme} (h : IsFixed s.template)
    (htheme : theme.template? s.component s.name = .ok none) (values : Table Json) :
    s.substitute values theme = .ok s.template := by
  rw [substitute_of_effective (effective_of_template?_eq_none htheme), h]

/-- A template that is a literal resolves to itself, whatever the values and the theme.  A template
without variants resolves to a template that resolves to itself, where each placeholder is supplied
with a literal or with nothing, and those under `conditional` are not supplied with lists. -/
theorem substitute_leaves_literals (s : Spec) :
    (∀ values theme, theme.template? s.component s.name = .ok none → IsLiteral s.template →
      s.substitute values theme = .ok s.template) ∧
    ∀ values theme template, s.effective theme = .ok template → EveryObject LacksVariants template →
      (∀ key ∈ tokens template, source (unmarked values) theme key = .null ∨
        IsLiteral (source (unmarked values) theme key)) →
      EveryObject (SuppliesNoVariants (source (unmarked values) theme)) template →
      ∃ resolved, s.substitute values theme = .ok resolved ∧
        ∀ (s' : Spec) values' theme', s'.template = resolved →
          theme'.template? s'.component s'.name = .ok none →
          s'.substitute values' theme' = .ok resolved := by
  constructor
  · intro values theme htheme hliteral
    exact substitute_of_isFixed hliteral.isFixed htheme values
  · intro values theme template htemplate hnone hliterals hvariants
    refine ⟨_, substitute_of_effective htemplate values, ?_⟩
    rintro s' values' theme' hs' htheme'
    have hfixed : IsFixed s'.template := by
      rw [hs']
      apply isFixed_resolve hnone _ hvariants
      intro key hkey
      rcases hliterals key hkey with hnull | hliteral
      · rw [hnull]
        exact isFixed_null
      · exact hliteral.isFixed
    rw [substitute_of_isFixed hfixed htheme' values', hs']

/-- A template with placeholders as a value, in a list and under `conditional`. -/
def tassel : Table Json :=
  [("text", "#text#"), ("tags", .arr ["#tags#", "#nowhere#"]), ("conditional", "#tone#")]

/-- Values for the placeholders of `tassel`. -/
def tasselValues : Table Json :=
  [("#text#", .obj [("plain", "Day"), ("conditional", "dark")]), ("tags", .arr ["a", .arr []]),
    ("tone", .int 3), ("nowhere", .null)]

/-- A theme without templates. -/
def tasselTheme : Theme := ⟨"Tassel", [("json_templates", .obj [])]⟩

theorem everyObject_tassel {P : Table Json → Prop} (h : P tassel) : EveryObject P (.obj tassel) := by
  refine everyObject_obj ?_ h
  refine List.forall_mem_cons.mpr ⟨everyObject_str _, List.forall_mem_cons.mpr
    ⟨everyObject_arr ?_, List.forall_mem_singleton.mpr (everyObject_str _)⟩⟩
  exact List.forall_mem_cons.mpr
    ⟨everyObject_str _, List.forall_mem_singleton.mpr (everyObject_str _)⟩

theorem literals_tasselValues :
    ∀ key ∈ tokens (.obj tassel), source (unmarked tasselValues) tasselTheme key = .null ∨
      IsLiteral (source (unmarked tasselValues) tasselTheme key) := by
  have hkeys : tokens (.obj tassel) = (["text", "tags", "nowhere", "tone"] : List Text) := by decide
  have htext : IsLiteral (.obj [("plain", "Day"), ("conditional", "dark")]) := by
    apply isLiteral_obj _ (by decide)
    exact List.forall_mem_cons.mpr
      ⟨isLiteral_str (by decide), List.forall_mem_singleton.mpr (isLiteral_str (by decide))⟩
  have htags : IsLiteral (.arr ["a", .arr []]) := by
    apply isLiteral_arr
    exact List.forall_mem_cons.mpr
      ⟨isLiteral_str (by decide), List.forall_mem_singleton.mpr (isLiteral_arr nofun)⟩
  have hnowhere : source (unmarked tasselValues) tasselTheme "nowhere" = .null := by decide +kernel
  rw [hkeys]
  refine List.forall_mem_cons.mpr ⟨.inr htext, List.forall_mem_cons.mpr ⟨.inr htags, ?_⟩⟩
  exact List.forall_mem_cons.mpr
    ⟨.inl hnowhere, List.forall_mem_singleton.mpr (.inr (isLiteral_int 3))⟩

theorem suppliesNoVariants_tassel :
    SuppliesNoVariants (source (unmarked tasselValues) tasselTheme) tassel := by
  refine List.forall_mem_cons.mpr ⟨?_, List.forall_mem_cons.mpr ⟨?_, ?_⟩⟩
  · intro hk
    exact absurd hk (by decide)
  · intro hk
    exact absurd hk (by decide)
  · refine List.forall_mem_singleton.mpr ?_
    intro _ key hkey
    obtain rfl : "tone" = key := Option.some.inj hkey
    decide

/-- A literal stays as it is, and what `tassel` resolves to stays in a second run. -/
theorem substitute_leaves_literals_of_tassel :
    let motto : Json := .obj [("role", "body"), ("rest", .arr []), ("conditional", "dark")]
    IsLiteral motto ∧
    (Spec.mk "body" "json" "JSON" motto).substitute tasselValues tasselTheme = .ok motto ∧
    EveryObject LacksVariants (.obj tassel) ∧ (∀ key ∈ tokens (.obj tassel),
      source (unmarked tasselValues) tasselTheme key = .null ∨
        IsLiteral (source (unmarked tasselValues) tasselTheme key)) ∧
    EveryObject (SuppliesNoVariants (source (unmarked tasselValues) tasselTheme)) (.obj tassel) ∧
    let resolved : Json := .obj [("text", .obj [("plain", "Day"), ("conditional", "dark")]),
      ("tags", .arr [.arr ["a", .arr []]]), ("conditional", .int 3)]
    (Spec.mk "body" "json" "JSON" (.obj tassel)).substitute tasselValues tasselTheme = .ok resolved ∧
    (Spec.mk "body" "json" "JSON" resolved).substitute [("tone", "black")] tasselTheme =
      .ok resolved := by
  intro motto
  have hmotto : IsLiteral motto := by
    apply isLiteral_obj _ (by decide)
    refine List.forall_mem_cons.mpr ⟨isLiteral_str (by decide), ?_⟩
    exact List.forall_mem_cons.mpr
      ⟨isLiteral_arr nofun, List.forall_mem_singleton.mpr (isLiteral_str (by decide))⟩
  have hfirst := (substitute_leaves_literals ⟨"body", "json", "JSON", motto⟩).1 tasselValues tasselTheme
    rfl hmotto
  have hvariants : EveryObject LacksVariants (.obj tassel) := everyObject_tassel (by decide)
  have hsupplied := everyObject_tassel suppliesNoVariants_tassel
  obtain ⟨resolved, hresolved, hagain⟩ :=
    (substitute_leaves_literals ⟨"body", "json", "JSON", .obj tassel⟩).2 tasselValues tasselTheme
      (.obj tassel) rfl hvariants literals_tasselValues hsupplied
  refine ⟨hmotto, hfirst, hvariants, literals_tasselValues, hsupplied, ?_⟩
  intro shown
  have hshown : resolved = shown := by
    have hrun : (Spec.mk "body" "json" "JSON" (.obj tassel)).substitute tasselValues tasselTheme =
        .ok shown := by
      rfl
    rw [hresolved] at hrun
    exact Except.ok.inj hrun
  rw [hshown] at hresolved hagain
  exact ⟨hresolved, hagain ⟨"body", "json", "JSON", shown⟩ [("tone", "black")] tasselTheme rfl rfl⟩

/-- A list that is supplied under `conditional` is put in as it is, though it is a literal; in a second
run it is a list of variants, and each variant comes out over the other entries. -/
theorem substitute_varies_supplied_list :
    let template : Json := .obj [("a", .int 1), ("conditional", "#x#")]
    let supplied : Json := .arr [.obj [("b", .int 2)]]
    let resolved : Json := .obj [("a", .int 1), ("conditional", supplied)]
    let again : Json :=
      .obj [("a", .int 1), ("conditional", .arr [.obj [("a", .int 1), ("b", .int 2)]])]
    EveryObject LacksVariants template ∧
    (∀ key ∈ tokens template, IsLiteral (source (unmarked [("x", supplied)]) tasselTheme key)) ∧
    (Spec.mk "x" "json" "JSON" template).substitute [("x", supplied)] tasselTheme = .ok resolved ∧
    (Spec.mk "x" "json" "JSON" resolved).substitute [] tasselTheme = .ok again ∧
    again ≠ resolved := by
  intro template supplied resolved again
  have hsupplied : IsLiteral supplied := by
    apply isLiteral_arr
    refine List.forall_mem_singleton.mpr (isLiteral_obj ?_ (by decide))
    exact List.forall_mem_singleton.mpr (isLiteral_int 2)
  have htemplate : EveryObject LacksVariants template := by
    refine everyObject_obj ?_ (by decide)
    exact List.forall_mem_cons.mpr
      ⟨(isLiteral_int 1).noVariants, List.forall_mem_singleton.mpr (everyObject_str _)⟩
  have hkeys : tokens template = (["x"] : List Text) := by decide
  refine ⟨htemplate, ?_, rfl, rfl, by decide⟩
  rw [hkeys]
  exact List.forall_mem_singleton.mpr hsupplied

end ArticleExport.Spec
