import ArticleExport.Proofs.Spec.Variants

/-!
# Nothing unresolved is left

Neither a null nor a placeholder is left in a resolved template when the values of its
placeholders bring none with them; only the conditions of variants may hold some.  The
induction goes over the parts of the template, so that it covers the fields of variants
together with the values of an object.
-/

namespace ArticleExport.Spec

variable {lookup : Text → Json}

/-- Whether a value is null or a placeholder. -/
def isUnresolved (v : Json) : Bool := v.isNull || (tokenKey? v).isSome

/-- A path leads into the conditions of a variant, which is an object in a list under `conditional`. -/
def InConditions (path : Json.Path) : Prop :=
  [some (.text conditionalKey), none, some (.text conditionsKey)] <:+: path.keys

/-- A value with no null and no placeholder in it. -/
def IsClean (v : Json) : Prop := ∀ path part, v.Holds path part → isUnresolved part = false

/-- A value with no null and no placeholder in it but in the conditions of variants. -/
def IsSettled (v : Json) : Prop :=
  ∀ path part, v.Holds path part → isUnresolved part = true → InConditions path

theorem IsClean.isSettled {v : Json} (h : IsClean v) : IsSettled v := by
  intro path part hpart hunresolved
  rw [h path part hpart] at hunresolved
  cases hunresolved

theorem InConditions.cons {path : Json.Path} (h : InConditions path) (step : Json.PathStep) :
    InConditions (step :: path) :=
  List.IsInfix.trans h (List.suffix_cons _ _).isInfix

theorem isUnresolved_prune (v : Json) : isUnresolved v.prune = isUnresolved v := by
  cases v <;> rfl

theorem IsSettled.prune {v : Json} (h : IsSettled v) : IsSettled v.prune := by
  intro path part hpart hunresolved
  obtain ⟨path', part', hpart', hkeys, hsame⟩ := hpart.of_prune
  have hunresolved' : isUnresolved part' = true := by
    rcases hsame with rfl | rfl
    · exact hunresolved
    · rw [isUnresolved_prune] at hunresolved
      exact hunresolved
  have hconditions := h path' part' hpart' hunresolved'
  rw [InConditions, hkeys] at hconditions
  exact hconditions

theorem isClean_str {t : Text} (h : token? t = none) : IsClean (.str t) := by
  intro path part hpart
  cases hpart with
  | here _ => rw [isUnresolved, tokenKey?, h]; rfl

theorem isClean_arr {items : List Json} (h : ∀ v ∈ items, IsClean v) : IsClean (.arr items) := by
  intro path part hpart
  cases hpart with
  | here _ => rfl
  | item hv hpart => exact h _ (List.mem_of_getElem? hv) _ _ hpart

theorem isClean_obj {entries : Table Json} (h : ∀ e ∈ entries, IsClean e.2) :
    IsClean (.obj entries) := by
  intro path part hpart
  cases hpart with
  | here _ => rfl
  | entry hv hpart => exact h _ hv _ _ hpart

/-! ## The placeholders of parts -/

theorem mem_tokensOfItems {key : Text} {items : List Json} :
    key ∈ tokensOfItems items ↔ ∃ v ∈ items, key ∈ tokens v := by
  induction items with
  | nil => simp [tokensOfItems]
  | cons v vs ih => simp [tokensOfItems, ih]

theorem mem_tokensOfEntries {key : Text} {entries : Table Json} :
    key ∈ tokensOfEntries entries ↔ ∃ e ∈ entries, key ∈ tokens e.2 := by
  induction entries with
  | nil => simp [tokensOfEntries]
  | cons e es ih => simp [tokensOfEntries, ih]

theorem mem_tokens_of_holds {v part : Json} {path : Json.Path} (h : v.Holds path part)
    (hv : v.IsProper) {key : Text} (hkey : key ∈ tokens part) : key ∈ tokens v := by
  induction h with
  | here _ => exact hkey
  | item hitem _ ih =>
      have hmem := List.mem_of_getElem? hitem
      exact mem_tokensOfItems.mpr ⟨_, hmem, ih (Json.isProper_arr.mp hv _ hmem) hkey⟩
  | entry hentry _ ih =>
      exact mem_tokensOfEntries.mpr ⟨_, hentry, ih ((Json.isProper_obj.mp hv).2 _ hentry) hkey⟩
  | keyed _ _ _ => cases hv

/-! ## Resolving -/

/-- A lookup brings neither nulls nor placeholders with the values of keys, though it may lack some. -/
def BringsNone (lookup : Text → Json) (keys : List Text) : Prop :=
  ∀ key ∈ keys, lookup key = .null ∨ IsClean (lookup key)

/-- A value resolves to null, or to something settled. -/
def Settles (lookup : Text → Json) (v : Json) : Prop :=
  resolve lookup v = .null ∨ IsSettled (resolve lookup v)

theorem Settles.isSettled {v : Json} (h : Settles lookup v) (hnull : (resolve lookup v).isNull = false) :
    IsSettled (resolve lookup v) := by
  refine h.resolve_left ?_
  intro heq
  rw [heq] at hnull
  cases hnull

theorem isSettled_resolve_arr {items : List Json} (h : ∀ v ∈ items, Settles lookup v) :
    IsSettled (resolve lookup (.arr items)) := by
  rw [resolve, resolveItems_eq]
  intro path part hpart hunresolved
  cases hpart with
  | here _ => cases hunresolved
  | item hv hpart =>
      obtain ⟨v, hmem, hsome⟩ := List.mem_filterMap.mp (List.mem_of_getElem? hv)
      rw [resolved?, Option.ite_none_left_eq_some] at hsome
      obtain ⟨hnull, heq⟩ := hsome
      obtain rfl := Option.some.inj heq
      have hsettled := (h v hmem).isSettled (Bool.eq_false_iff.mpr hnull)
      exact (hsettled _ _ hpart hunresolved).cons _

/-- An entry is settled but for its conditions when its base and the values of its fields are. -/
theorem inConditions_of_entryOf {base variant : Table Json} {path : Json.Path} {part : Json} (i : Nat)
    (hbase : ∀ e ∈ base, IsSettled e.2) (hfields : ∀ e ∈ variant, Settles lookup e.2)
    (hpart : (Json.obj (entryOf lookup base variant)).Holds path part)
    (hunresolved : isUnresolved part = true) :
    InConditions (.key conditionalKey :: .item i :: path) := by
  cases hpart with
  | here _ => cases hunresolved
  | @entry _ k w _ path hv hpart =>
      rcases mem_entryOf hv with rfl | hmem | hmem
      · exact ⟨[], path.keys, rfl⟩
      · exact (((hbase _ hmem _ _ hpart hunresolved).cons _).cons _).cons _
      · obtain ⟨-, v, hvariant, rfl, hvalue⟩ := mem_fieldsOf.mp hmem
        rcases hfields _ hvariant with hnull | hsettled
        · rw [hnull] at hvalue
          cases hvalue
        · exact (((hsettled.prune _ _ hpart hunresolved).cons _).cons _).cons _

/-- An object resolves to something settled when its values and the fields of its variants do. -/
theorem isSettled_resolve_obj {entries : Table Json} (hvalues : ∀ e ∈ entries, Settles lookup e.2)
    (hfields : ∀ items variant, (conditionalKey, .arr items) ∈ entries → .obj variant ∈ items →
      ∀ e ∈ variant, Settles lookup e.2) :
    IsSettled (resolve lookup (.obj entries)) := by
  have hbase : ∀ e ∈ resolveBase lookup entries, IsSettled e.2 := by
    rintro ⟨k, w⟩ he
    obtain ⟨v, hv, -, rfl, hnull⟩ := mem_resolveBase.mp he
    exact (hvalues _ hv).isSettled hnull
  rw [resolve_obj]
  intro path part hpart hunresolved
  cases hpart with
  | here _ => cases hunresolved
  | entry hv hpart =>
      rcases mem_withVariants hv with hmem | heq
      · exact (hbase _ hmem _ _ hpart hunresolved).cons _
      · obtain ⟨rfl, rfl⟩ := Prod.mk.inj heq
        cases hpart with
        | here _ => cases hunresolved
        | @item _ i _ _ _ hw hpart =>
            obtain ⟨items, hitems, hentry⟩ := mem_resolveConditional (List.mem_of_getElem? hw)
            rw [resolveVariants_eq] at hentry
            obtain ⟨variant, hvariant, rfl⟩ := List.mem_map.mp hentry
            obtain ⟨hitem, -⟩ := mem_survivors.mp hvariant
            exact inConditions_of_entryOf i hbase (hfields items variant hitems hitem) hpart hunresolved

/-- Every template resolves to null or to something settled. -/
theorem settles_of_bringsNone (t : Json) (ht : t.IsProper) (hlookup : BringsNone lookup (tokens t)) :
    Settles lookup t := by
  induction t using Json.inductionOnParts with
  | h t ih =>
      have hparts : ∀ step path part, t.Holds (step :: path) part → Settles lookup part := by
        intro step path part hpart
        exact ih step path part hpart (hpart.isProper ht) fun key hkey =>
          hlookup key (mem_tokens_of_holds hpart ht hkey)
      cases t with
      | null => exact .inl rfl
      | bool _ | int _ | float _ =>
          right
          intro path part hpart hunresolved
          cases hpart
          cases hunresolved
      | str t =>
          rw [Settles, resolve]
          cases hkey : token? t with
          | none => exact .inr (isClean_str hkey).isSettled
          | some key =>
              have hmem : key ∈ tokens (.str t) := by
                rw [tokens, hkey]
                exact List.mem_singleton_self key
              exact (hlookup key hmem).imp_right IsClean.isSettled
      | keyed _ => cases ht
      | arr items =>
          refine .inr (isSettled_resolve_arr fun v hv => ?_)
          obtain ⟨i, hi⟩ := List.mem_iff_getElem?.mp hv
          exact hparts _ _ v (.item hi (.here v))
      | obj entries =>
          refine .inr (isSettled_resolve_obj (fun e he => hparts _ _ e.2 (.entry he (.here _))) ?_)
          intro items variant hitems hvariant e he
          obtain ⟨i, hi⟩ := List.mem_iff_getElem?.mp hvariant
          exact hparts _ _ e.2 (.entry hitems (.item hi (.entry he (.here _))))

/-- Where the values of placeholders bring neither nulls nor placeholders, none is left in a template
that resolves to something, but in the conditions of variants. -/
theorem substitute_leaves_none
    (s : Spec) (values : Table Json) (theme : Theme) {template : Json}
    (htemplate : s.effective theme = .ok template) (hproper : template.IsProper)
    (hvalues : BringsNone (source (unmarked values) theme) (tokens template)) :
    ∃ resolved, s.substitute values theme = .ok resolved ∧
      (resolved ≠ .null → IsSettled resolved) :=
  ⟨_, substitute_of_effective htemplate values,
    (settles_of_bringsNone template hproper hvalues).resolve_left⟩

/-- A template with placeholders in a list, in a variant and in the conditions of that variant. -/
def ribbon : Json := .obj [("text", "#text#"), ("caption", "#nowhere#"),
  ("tags", .arr [.null, "#tags#", "#nowhere#"]),
  ("conditional", .arr [.obj [("text", "#dark#"),
    ("conditions", .obj [("scheme", "#nowhere#"), ("version", .null)])]])]

/-- Values for the placeholders of `ribbon`. -/
def ribbonValues : Table Json :=
  [("#text#", "Day"), ("dark", .obj [("tone", "Night")]), ("tags", .arr ["a", "#b"]),
    ("nowhere", .null)]

/-- A theme that brings `ribbon` for body text. -/
def ribbonTheme : Theme :=
  ⟨"Ribbon", [("json_templates", .obj [("body", .obj [("json", ribbon)])])]⟩

theorem isProper_ribbon : ribbon.IsProper := by decide

theorem bringsNone_ribbonValues :
    BringsNone (source (unmarked ribbonValues) ribbonTheme) (tokens ribbon) := by
  have hkeys : tokens ribbon =
      (["text", "nowhere", "tags", "nowhere", "dark", "nowhere"] : List Text) := by decide
  have hnowhere : source (unmarked ribbonValues) ribbonTheme "nowhere" = .null := by decide +kernel
  have htext : IsClean (source (unmarked ribbonValues) ribbonTheme "text") := by
    have hvalue : source (unmarked ribbonValues) ribbonTheme "text" = .str "Day" := by decide +kernel
    rw [hvalue]
    exact isClean_str (by decide)
  have htags : IsClean (source (unmarked ribbonValues) ribbonTheme "tags") := by
    have hvalue : source (unmarked ribbonValues) ribbonTheme "tags" = .arr ["a", "#b"] := by
      decide +kernel
    rw [hvalue]
    exact isClean_arr (List.forall_mem_cons.mpr
      ⟨isClean_str (by decide), List.forall_mem_singleton.mpr (isClean_str (by decide))⟩)
  have hdark : IsClean (source (unmarked ribbonValues) ribbonTheme "dark") := by
    have hvalue : source (unmarked ribbonValues) ribbonTheme "dark" = .obj [("tone", "Night")] := by
      decide +kernel
    rw [hvalue]
    exact isClean_obj (List.forall_mem_singleton.mpr (isClean_str (by decide)))
  rw [hkeys]
  refine List.forall_mem_cons.mpr ⟨.inr htext, List.forall_mem_cons.mpr ⟨.inl hnowhere, ?_⟩⟩
  refine List.forall_mem_cons.mpr ⟨.inr htags, List.forall_mem_cons.mpr ⟨.inl hnowhere, ?_⟩⟩
  exact List.forall_mem_cons.mpr ⟨.inr hdark, List.forall_mem_singleton.mpr (.inl hnowhere)⟩

theorem substitute_leaves_none_of_ribbon :
    ribbon.IsProper ∧ BringsNone (source (unmarked ribbonValues) ribbonTheme) (tokens ribbon) ∧
      ∃ resolved,
        (Spec.mk "body" "json" "JSON" .null).substitute ribbonValues ribbonTheme = .ok resolved ∧
        resolved ≠ .null ∧ IsSettled resolved := by
  have htemplate : (Spec.mk "body" "json" "JSON" .null).effective ribbonTheme = .ok ribbon := rfl
  obtain ⟨resolved, hresolved, hsettled⟩ :=
    substitute_leaves_none _ ribbonValues ribbonTheme htemplate isProper_ribbon bringsNone_ribbonValues
  have hroot : resolved ≠ .null := by
    rintro rfl
    rw [substitute_of_effective htemplate, Except.ok.injEq] at hresolved
    have hnull : (resolve (source (unmarked ribbonValues) ribbonTheme) ribbon).isNull = false :=
      isNull_resolve_obj _ _
    rw [hresolved] at hnull
    cases hnull
  exact ⟨isProper_ribbon, bringsNone_ribbonValues, resolved, hresolved, hroot, hsettled hroot⟩

end ArticleExport.Spec
