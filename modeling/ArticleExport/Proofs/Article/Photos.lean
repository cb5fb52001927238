import ArticleExport.Proofs.Article.FragmentTree
import ArticleExport.Proofs.Article.Ledger
import Mathlib.Data.List.Nodup

/-!
# The photos of an article

A fragment whose role is `photo` has the address of its picture under `URL`.  The addresses
are taken down in depth-first order, and rewritten in place.
-/

namespace ArticleExport

/-- The name under which a photo has the address of its picture. -/
def urlKey : Text := "URL"

/-- Whether a fragment is a photo. -/
def isPhoto (fields : Table Json) : Bool := Table.get? "role" fields = some "photo"

namespace Json

/-- The address of a photo. -/
def photoUrl? : Json → Option Text
  | .obj fields =>
    match isPhoto fields, Table.get? urlKey fields with
    | true, some (.str url) => some url
    | _, _ => none
  | _ => none

/-- The addresses of a fragment and of all fragments in it, in depth-first order. -/
def photoUrls (f : Json) : List Text := f.fragments.filterMap photoUrl?

/-- An address rewritten; any other value stays. -/
def mapText (φ : Text → Text) : Json → Json
  | .str t => .str (φ t)
  | v => v

mutual

/-- A fragment with the addresses of all photos in it rewritten, its own one if it is a photo. -/
def mapPhotos (φ : Text → Text) : Json → Json
  | .obj fields => .obj (mapPhotosIn φ (isPhoto fields) fields)
  | v => v

/-- The fields of a fragment, which may be a photo, with the addresses rewritten. -/
def mapPhotosIn (φ : Text → Text) (photo : Bool) : List (Text × Json) → List (Text × Json)
  | [] => []
  | (k, v) :: es =>
    (k, if k = componentsKey then mapPhotosUnder φ v
      else if photo && k == urlKey then mapText φ v else v) :: mapPhotosIn φ photo es

/-- What stands under `components`, with the addresses rewritten. -/
def mapPhotosUnder (φ : Text → Text) : Json → Json
  | .arr items => .arr (mapPhotosOf φ items)
  | v => v

/-- Fragments with the addresses rewritten. -/
def mapPhotosOf (φ : Text → Text) : List Json → List Json
  | [] => []
  | v :: vs => mapPhotos φ v :: mapPhotosOf φ vs

end

variable {φ : Text → Text} {photo : Bool} {fields : Table Json}

theorem mapPhotosOf_eq_map (φ : Text → Text) (items : List Json) :
    mapPhotosOf φ items = items.map (mapPhotos φ) := by
  induction items with
  | nil => rfl
  | cons v vs ih => rw [mapPhotosOf, List.map_cons, ih]

/-! ## Fields that neither hold fragments nor an address -/

theorem mapPhotosIn_cons {name : Text} (hcomponents : name ≠ componentsKey) (hurl : name ≠ urlKey)
    (φ : Text → Text) (photo : Bool) (value : Json) (fields : Table Json) :
    mapPhotosIn φ photo ((name, value) :: fields) =
      (name, value) :: mapPhotosIn φ photo fields := by
  have hfalse : (photo && name == urlKey) = false := by
    rw [beq_false_of_ne hurl, Bool.and_false]
  rw [mapPhotosIn, if_neg hcomponents, hfalse]
  rfl

theorem mapPhotosIn_set {name : Text} (hcomponents : name ≠ componentsKey) (hurl : name ≠ urlKey)
    (φ : Text → Text) (photo : Bool) (value : Json) (fields : Table Json) :
    mapPhotosIn φ photo (Table.set name value fields) =
      Table.set name value (mapPhotosIn φ photo fields) := by
  induction fields with
  | nil => exact mapPhotosIn_cons hcomponents hurl φ photo value []
  | cons e fields ih =>
      obtain ⟨k, v⟩ := e
      rw [Table.set, mapPhotosIn, Table.set]
      split
      · rename_i hk
        subst hk
        exact mapPhotosIn_cons hcomponents hurl φ photo value fields
      · rw [mapPhotosIn, ih]

theorem get?_mapPhotosIn {name : Text} (hcomponents : name ≠ componentsKey) (hurl : name ≠ urlKey)
    (φ : Text → Text) (photo : Bool) (fields : Table Json) :
    Table.get? name (mapPhotosIn φ photo fields) = Table.get? name fields := by
  induction fields with
  | nil => rfl
  | cons e fields ih =>
      obtain ⟨k, v⟩ := e
      by_cases hk : k = name
      · subst hk
        rw [mapPhotosIn_cons hcomponents hurl, Table.get?_cons, Table.get?_cons, if_pos rfl,
          if_pos rfl]
      · rw [mapPhotosIn, Table.get?_cons, Table.get?_cons, if_neg hk, if_neg hk, ih]

theorem isPhoto_set {name : Text} (h : name ≠ "role") (value : Json) (fields : Table Json) :
    isPhoto (Table.set name value fields) = isPhoto fields := by
  rw [isPhoto, isPhoto, Table.get?_set, if_neg h]

theorem photoUrls_set {name : Text} (h : name ∉ [componentsKey, urlKey, "role"]) (value : Json)
    (fields : Table Json) :
    (obj (Table.set name value fields)).photoUrls = (obj fields).photoUrls := by
  simp only [List.mem_cons, List.not_mem_nil, or_false, not_or] at h
  obtain ⟨hcomponents, hurl, hrole⟩ := h
  have hown : (obj (Table.set name value fields)).photoUrl? = (obj fields).photoUrl? := by
    rw [photoUrl?, photoUrl?, isPhoto_set hrole, Table.get?_set, if_neg hurl]
  rw [photoUrls, photoUrls, fragments_obj, fragments_obj, fragmentsUnder_set hcomponents,
    List.filterMap_cons, List.filterMap_cons, hown]

theorem mapPhotos_set {name : Text} (h : name ∉ [componentsKey, urlKey, "role"])
    (φ : Text → Text) (value : Json) (fields : Table Json) :
    (obj (Table.set name value fields)).mapPhotos φ =
      obj (Table.set name value (mapPhotosIn φ (isPhoto fields) fields)) := by
  simp only [List.mem_cons, List.not_mem_nil, or_false, not_or] at h
  obtain ⟨hcomponents, hurl, hrole⟩ := h
  rw [mapPhotos, isPhoto_set hrole, mapPhotosIn_set hcomponents hurl]

theorem get?_urlKey_mapPhotosIn (φ : Text → Text) (fields : Table Json) :
    Table.get? urlKey (mapPhotosIn φ true fields) = (Table.get? urlKey fields).map (mapText φ) := by
  have hurl : urlKey ≠ componentsKey := by decide
  induction fields with
  | nil => rfl
  | cons e fields ih =>
      obtain ⟨k, v⟩ := e
      rw [mapPhotosIn, Table.get?_cons, Table.get?_cons]
      by_cases hk : k = urlKey
      · subst hk
        rw [if_pos rfl, if_pos rfl, if_neg hurl, Bool.true_and, if_pos (beq_self_eq_true _)]
        rfl
      · rw [if_neg hk, if_neg hk, ih]

/-- The address of a photo is rewritten, and nothing becomes a photo by it. -/
theorem photoUrl?_mapPhotos (φ : Text → Text) (f : Json) :
    (f.mapPhotos φ).photoUrl? = f.photoUrl?.map φ := by
  cases f with
  | obj fields =>
      have hphoto : isPhoto (mapPhotosIn φ (isPhoto fields) fields) = isPhoto fields := by
        rw [isPhoto, get?_mapPhotosIn (by decide) (by decide), ← isPhoto]
      rw [mapPhotos, photoUrl?, photoUrl?, hphoto]
      cases hrole : isPhoto fields with
      | false => rfl
      | true =>
          rw [get?_urlKey_mapPhotosIn]
          cases Table.get? urlKey fields with
          | none => rfl
          | some v => cases v <;> rfl
  | _ => rfl

mutual

theorem photoUrls_mapPhotos (φ : Text → Text) :
    ∀ f : Json, (f.mapPhotos φ).photoUrls = f.photoUrls.map φ
  | .obj fields => by
      have hown := photoUrl?_mapPhotos φ (.obj fields)
      have hinside := filterMap_fragmentsUnder_mapPhotosIn φ (isPhoto fields) fields
      rw [mapPhotos] at hown ⊢
      rw [photoUrls, photoUrls, fragments_obj, fragments_obj, List.filterMap_cons,
        List.filterMap_cons, hown, hinside]
      cases (obj fields).photoUrl? <;> rfl
  | .null | .bool _ | .int _ | .float _ | .str _ | .arr _ | .keyed _ => rfl

theorem filterMap_fragmentsUnder_mapPhotosIn (φ : Text → Text) (photo : Bool) :
    ∀ fields : List (Text × Json),
      (fragmentsUnder (mapPhotosIn φ photo fields)).filterMap photoUrl? =
        ((fragmentsUnder fields).filterMap photoUrl?).map φ
  | [] => rfl
  | (k, v) :: fields => by
      have hrest := filterMap_fragmentsUnder_mapPhotosIn φ photo fields
      rw [mapPhotosIn]
      by_cases hk : k = componentsKey
      · rw [if_pos hk]
        cases v with
        | arr items =>
            rw [mapPhotosUnder, fragmentsUnder, fragmentsUnder, if_pos hk, if_pos hk]
            exact filterMap_fragmentsOf_mapPhotosOf φ items
        | _ => simp only [mapPhotosUnder, fragmentsUnder, if_pos hk, List.filterMap_nil, List.map_nil]
      · -- A rewritten address holds no fragments, like the address that it stands for.
        rw [if_neg hk]
        split
        · cases v <;> simpa only [mapText, fragmentsUnder, if_neg hk] using hrest
        · cases v <;> simpa only [fragmentsUnder, if_neg hk] using hrest

theorem filterMap_fragmentsOf_mapPhotosOf (φ : Text → Text) :
    ∀ items : List Json,
      (fragmentsOf (mapPhotosOf φ items)).filterMap photoUrl? =
        ((fragmentsOf items).filterMap photoUrl?).map φ
  | [] => rfl
  | v :: vs => by
      have hfirst := photoUrls_mapPhotos φ v
      have hrest := filterMap_fragmentsOf_mapPhotosOf φ vs
      rw [mapPhotosOf, fragmentsOf, fragmentsOf, List.filterMap_append, List.filterMap_append,
        List.map_append, hrest]
      exact congrArg (· ++ _) hfirst

end

/-! ## Fragments that are no photos -/

theorem mapPhotosIn_append (φ : Text → Text) (photo : Bool) (s t : Table Json) :
    mapPhotosIn φ photo (s ++ t) = mapPhotosIn φ photo s ++ mapPhotosIn φ photo t := by
  induction s with
  | nil => rfl
  | cons e s ih =>
      obtain ⟨k, v⟩ := e
      rw [List.cons_append, mapPhotosIn, mapPhotosIn, ih, List.cons_append]

theorem mapPhotosIn_of_not_mem (h : componentsKey ∉ Table.keys fields) (φ : Text → Text) :
    mapPhotosIn φ false fields = fields := by
  induction fields with
  | nil => rfl
  | cons e fields ih =>
      obtain ⟨k, v⟩ := e
      obtain ⟨hk, hrest⟩ := not_or.mp (h ∘ List.mem_cons.mpr)
      rw [mapPhotosIn, if_neg (Ne.symm hk), ih hrest]
      rfl

theorem photoUrls_obj (h : isPhoto fields = false) :
    (obj fields).photoUrls = (fragmentsUnder fields).filterMap photoUrl? := by
  have hnone : (obj fields).photoUrl? = none := by
    rw [photoUrl?, h]
  rw [photoUrls, fragments_obj, List.filterMap_cons_none hnone]

theorem filterMap_fragmentsOf (items : List Json) :
    (fragmentsOf items).filterMap photoUrl? = items.flatMap photoUrls := by
  induction items with
  | nil => rfl
  | cons v vs ih => rw [fragmentsOf, List.filterMap_append, List.flatMap_cons, ih, photoUrls]

section Container

variable {before after : Table Json} {items : List Json}

/-- A fragment that is no photo has the photos of the fragments that it holds. -/
theorem photoUrls_container
    (hrole : isPhoto (before ++ (componentsKey, arr items) :: after) = false)
    (hbefore : componentsKey ∉ Table.keys before) :
    (obj (before ++ (componentsKey, arr items) :: after)).photoUrls = items.flatMap photoUrls := by
  have hitems : Table.get? componentsKey (before ++ (componentsKey, arr items) :: after) =
      some (arr items) := by
    rw [Table.get?_append_of_not_mem hbefore, Table.get?_cons, if_pos rfl]
  rw [photoUrls_obj hrole, fragmentsUnder_of_get?_eq_some hitems, filterMap_fragmentsOf]

theorem mapPhotos_container
    (hrole : isPhoto (before ++ (componentsKey, arr items) :: after) = false)
    (hbefore : componentsKey ∉ Table.keys before) (hafter : componentsKey ∉ Table.keys after)
    (φ : Text → Text) :
    (obj (before ++ (componentsKey, arr items) :: after)).mapPhotos φ =
      obj (before ++ (componentsKey, arr (items.map (mapPhotos φ))) :: after) := by
  rw [mapPhotos, hrole, mapPhotosIn_append, mapPhotosIn_of_not_mem hbefore, mapPhotosIn,
    mapPhotosIn_of_not_mem hafter, if_pos rfl, mapPhotosUnder, mapPhotosOf_eq_map]

end Container

/-- Whether there are no photos in a fragment. -/
structure IsPhotoFree (f : Json) : Prop where
  urls : f.photoUrls = []
  kept : ∀ φ, f.mapPhotos φ = f

/-- A fragment that is no photo and holds no others. -/
theorem IsPhotoFree.of_not_mem (hrole : isPhoto fields = false)
    (hcomponents : componentsKey ∉ Table.keys fields) :
    (obj fields).IsPhotoFree := by
  constructor
  · have hnone := Table.get?_eq_none_iff.mpr hcomponents
    rw [photoUrls_obj hrole, fragmentsUnder_of_get?_eq_none hnone]
    rfl
  · intro φ
    rw [mapPhotos, hrole, mapPhotosIn_of_not_mem hcomponents]

/-- A fragment that is no photo and holds fragments without photos. -/
theorem IsPhotoFree.container
    {before after : Table Json} {items : List Json} (h : ∀ v ∈ items, v.IsPhotoFree)
    (hrole : isPhoto (before ++ (componentsKey, arr items) :: after) = false)
    (hbefore : componentsKey ∉ Table.keys before) (hafter : componentsKey ∉ Table.keys after) :
    (obj (before ++ (componentsKey, arr items) :: after)).IsPhotoFree := by
  constructor
  · rw [photoUrls_container hrole hbefore]
    exact List.flatMap_eq_nil_iff.mpr fun v hv => (h v hv).urls
  · intro φ
    have hkept : items.map (mapPhotos φ) = items :=
      (List.map_congr_left fun v hv => (h v hv).kept φ).trans (List.map_id' items)
    rw [mapPhotos_container hrole hbefore hafter, hkept]

end Json

/-- The addresses of the photos of an article, in depth-first order. -/
def photoUrls (article : Table Json) : List Text :=
  (allFragments article).filterMap Json.photoUrl?

theorem photoUrls_eq {article : Table Json} (h : isPhoto article = false) :
    photoUrls article = (Json.obj article).photoUrls := by
  rw [Json.photoUrls_obj h, Json.fragmentsUnder_eq, photoUrls]

theorem foldl_addBundle_append (as bs : List Text) :
    (as ++ bs).foldl addBundle [] =
      (bs.foldl addBundle []).foldl addBundle (as.foldl addBundle []) := by
  rw [List.foldl_append, addBundle_eq_addNew]
  exact foldl_addNew_assoc (as.foldl (addNew bundleName) []) [] bs

/-- Bundles are the addresses that there are, in the order of their first use. -/
theorem foldl_addBundle_eq_eraseDups (urls : List Text) :
    urls.foldl addBundle [] = (urls.filter fun url => !url.isEmpty).eraseDups := by
  induction urls using List.reverseRecOn with
  | nil => rfl
  | append_singleton urls url ih =>
      let before := urls.filter fun url => !url.isEmpty
      have hadded (more : List Text) :
          (before ++ more).eraseDups = before.eraseDups ++ (more.removeAll before).eraseDups :=
        List.eraseDups_append
      rw [List.foldl_append, List.foldl_cons, List.foldl_nil, ih, addBundle, List.filter_append,
        hadded]
      cases hempty : url.isEmpty with
      | true =>
          rw [List.filter_cons_of_neg (by simp [hempty])]
          exact (List.append_nil _).symm
      | false =>
          rw [List.filter_cons_of_pos (by simp [hempty]), List.filter_nil, Bool.false_or]
          by_cases hmem : url ∈ before
          · have hknown : before.eraseDups.contains url = true := by
              simpa using hmem
            rw [if_pos hknown]
            have hnothing : [url].removeAll before = [] := by
              simpa [List.removeAll] using hmem
            rw [hnothing]
            exact (List.append_nil _).symm
          · have hnew : before.eraseDups.contains url = false := by
              simpa using hmem
            rw [hnew]
            have hsingle : [url].removeAll before = [url] := by
              simpa [List.removeAll] using hmem
            rw [hsingle]
            rfl

theorem nodup_foldl_addBundle {before : List Text} (h : before.Nodup) (urls : List Text) :
    (urls.foldl addBundle before).Nodup := by
  induction urls generalizing before with
  | nil => exact h
  | cons url urls ih =>
      refine ih ?_
      rw [addBundle]
      split
      · exact h
      · rename_i hnew
        have hfresh : url ∉ before := fun hmem => hnew (by simp [hmem])
        rw [← List.concat_eq_append]
        exact List.Nodup.concat hfresh h

end ArticleExport
