import ArticleExport.Proofs.Article.Parts
import ArticleExport.Publish.Document

/-!
# The photos of a document

What is sent of an article is a document, in which every mapping is an object and gives each name
once.  The fragments of an article are objects of that form already, so a document has the photos
of its article, under the same addresses and in the same order.
-/

namespace ArticleExport

namespace Json

mutual

/-- What a value of an article is in a document. -/
def documented : Json → Json
  | .null => .null
  | .bool b => .bool b
  | .int n => .int n
  | .float x => .float x
  | .str t => .str t
  | .arr items => .arr (documentedItems items)
  | .obj entries => .obj (Table.ofEntries (documentedEntries entries))
  | .keyed entries => .obj (Table.ofEntries (documentedKeyed entries))

/-- What the items of a list are in a document. -/
def documentedItems : List Json → List Json
  | [] => []
  | v :: vs => documented v :: documentedItems vs

/-- What the entries of an object are in a document. -/
def documentedEntries : List (Text × Json) → List (Text × Json)
  | [] => []
  | (k, v) :: es => (k, documented v) :: documentedEntries es

/-- What the entries of a mapping are in a document. -/
def documentedKeyed : List (Key × Json) → List (Text × Json)
  | [] => []
  | (k, v) :: es => (k.spelling, documented v) :: documentedKeyed es

end

end Json

namespace HostValue

theorem eq_of_writtenWhole {n m : Int} (h : writtenWhole n = .ok m) : m = n := by
  rw [writtenWhole] at h
  split at h
  · exact (Except.ok.inj h).symm
  · cases h

theorem eq_spelling_of_writtenName {k : Key} {name : Text} (h : writtenName k = .ok name) :
    name = k.spelling := by
  cases k with
  | int n =>
      rw [writtenName] at h
      obtain ⟨m, hm, rfl⟩ := exceptMap_eq_ok h
      rw [eq_of_writtenWhole hm]
      rfl
  | _ => exact (Except.ok.inj h).symm

mutual

/-- A value of an article that can stand in a document is there as it is. -/
theorem eq_documented_of_toJson :
    ∀ (v : Json) {w : Json}, (ofJson v).toJson = .ok w → w = v.documented
  | .null, _, h | .bool _, _, h | .float _, _, h | .str _, _, h => (Except.ok.inj h).symm
  | .int n, w, h => by
      rw [ofJson, toJson] at h
      obtain ⟨m, hm, rfl⟩ := exceptMap_eq_ok h
      rw [eq_of_writtenWhole hm]
      rfl
  | .arr items, w, h => by
      obtain ⟨vs, hvs, rfl⟩ := exceptMap_eq_ok h
      rw [eq_documentedItems_of_toItems items hvs]
      rfl
  | .obj entries, w, h => by
      obtain ⟨es, hes, rfl⟩ := exceptMap_eq_ok h
      rw [eq_documentedEntries_of_toEntries entries hes]
      rfl
  | .keyed entries, w, h => by
      obtain ⟨es, hes, rfl⟩ := exceptMap_eq_ok h
      rw [eq_documentedKeyed_of_toEntries entries hes]
      rfl

theorem eq_documentedItems_of_toItems :
    ∀ (items : List Json) {ws : List Json}, toItems (ofItems items) = .ok ws →
      ws = Json.documentedItems items
  | [], _, h => (Except.ok.inj h).symm
  | v :: vs, ws, h => by
      obtain ⟨w, hw, hrest⟩ := exceptBind_eq_ok h
      obtain ⟨us, hus, hdone⟩ := exceptBind_eq_ok hrest
      cases hdone
      rw [eq_documented_of_toJson v hw, eq_documentedItems_of_toItems vs hus]
      rfl

theorem eq_documentedEntries_of_toEntries :
    ∀ (entries : List (Text × Json)) {es : List (Text × Json)},
      toEntries (ofEntries entries) = .ok es → es = Json.documentedEntries entries
  | [], _, h => (Except.ok.inj h).symm
  | (k, v) :: entries, es, h => by
      obtain ⟨w, hw, hrest⟩ := exceptBind_eq_ok (toEntries_text_cons k (ofJson v) _ ▸ h)
      obtain ⟨fs, hfs, hdone⟩ := exceptBind_eq_ok hrest
      cases hdone
      rw [eq_documented_of_toJson v hw, eq_documentedEntries_of_toEntries entries hfs]
      rfl

theorem eq_documentedKeyed_of_toEntries :
    ∀ (entries : List (Key × Json)) {es : List (Text × Json)},
      toEntries (ofKeyed entries) = .ok es → es = Json.documentedKeyed entries
  | [], _, h => (Except.ok.inj h).symm
  | (k, v) :: entries, es, h => by
      obtain ⟨name, hname, hrest⟩ := exceptBind_eq_ok h
      obtain ⟨w, hw, hrest⟩ := exceptBind_eq_ok hrest
      obtain ⟨fs, hfs, hdone⟩ := exceptBind_eq_ok hrest
      cases hdone
      rw [eq_spelling_of_writtenName hname, eq_documented_of_toJson v hw,
        eq_documentedKeyed_of_toEntries entries hfs]
      rfl

end

end HostValue

/-- The document of an article has its entries, each name once. -/
theorem eq_ofEntries_of_validateDocument {article document : Table Json}
    (h : validateDocument (.ofJson (.obj article)) = .ok document) :
    document = Table.ofEntries (Json.documentedEntries article) := by
  rw [validateDocument] at h
  cases hvalue : (HostValue.ofJson (.obj article)).toJson with
  | error f =>
      rw [hvalue] at h
      cases h
  | ok v =>
      rw [hvalue, HostValue.eq_documented_of_toJson _ hvalue, Json.documented] at h
      cases hentries : Table.ofEntries (Json.documentedEntries article) with
      | nil =>
          rw [hentries] at h
          cases h
      | cons e es =>
          rw [hentries] at h
          exact (Except.ok.inj h).symm

/-! ## Photos -/

namespace Json

theorem documented_eq_str_iff {v : Json} {t : Text} : v.documented = .str t ↔ v = .str t := by
  cases v <;> simp [documented]

theorem get?_documentedEntries (name : Text) (entries : Table Json) :
    Table.get? name (documentedEntries entries) = (Table.get? name entries).map documented := by
  induction entries with
  | nil => rfl
  | cons e entries ih =>
      obtain ⟨k, v⟩ := e
      rw [documentedEntries, Table.get?_cons, Table.get?_cons, ih]
      split <;> rfl

theorem keys_documentedEntries (entries : Table Json) :
    Table.keys (documentedEntries entries) = Table.keys entries := by
  induction entries with
  | nil => rfl
  | cons e entries ih =>
      obtain ⟨k, v⟩ := e
      exact congrArg (k :: ·) ih

/-- An object with different names keeps its entries. -/
theorem documented_obj {entries : Table Json} (h : Table.Distinct entries) :
    (obj entries).documented = .obj (documentedEntries entries) := by
  have hdistinct : Table.Distinct (documentedEntries entries) := by
    rw [Table.Distinct, keys_documentedEntries]
    exact h
  rw [documented, Table.ofEntries_of_distinct hdistinct]

theorem isPhoto_documentedEntries (fields : Table Json) :
    isPhoto (documentedEntries fields) = isPhoto fields := by
  have hrole : Table.get? "role" (documentedEntries fields) = some (.str "photo") ↔
      Table.get? "role" fields = some (.str "photo") := by
    rw [get?_documentedEntries, Option.map_eq_some_iff]
    constructor
    · rintro ⟨v, hv, hphoto⟩
      rw [hv, documented_eq_str_iff.mp hphoto]
    · exact fun h => ⟨_, h, rfl⟩
  rw [isPhoto, isPhoto, decide_eq_decide]
  exact hrole

theorem photoUrl?_documentedEntries (fields : Table Json) :
    (obj (documentedEntries fields)).photoUrl? = (obj fields).photoUrl? := by
  rw [photoUrl?, photoUrl?, isPhoto_documentedEntries, get?_documentedEntries]
  cases isPhoto fields with
  | false => rfl
  | true =>
      cases Table.get? urlKey fields with
      | none => rfl
      | some v => cases v <;> rfl

mutual

theorem photoUrls_documented :
    ∀ f : Json, f.IsObject → AreParts f.fragments → f.documented.photoUrls = f.photoUrls
  | .obj fields => by
      intro _ hparts
      have hpart : IsPart fields := hparts fields (.head _)
      have hinside := filterMap_fragmentsUnder_documented fields hpart.inside
        fun fields' hfields' => hparts fields' (.tail _ hfields')
      rw [documented_obj hpart.distinct, photoUrls, photoUrls, fragments_obj, fragments_obj,
        List.filterMap_cons, List.filterMap_cons, photoUrl?_documentedEntries, hinside]
  | .null | .bool _ | .int _ | .float _ | .str _ | .arr _ => fun _ _ => rfl
  | .keyed entries => by
      intro hobject
      obtain ⟨fields, hfields⟩ := hobject
      cases hfields

theorem filterMap_fragmentsUnder_documented :
    ∀ entries : List (Text × Json),
      (∀ items, Table.get? componentsKey entries = some (.arr items) →
        ∀ v ∈ items, v.IsObject) →
      AreParts (fragmentsUnder entries) →
        (fragmentsUnder (documentedEntries entries)).filterMap photoUrl? =
          (fragmentsUnder entries).filterMap photoUrl?
  | [] => fun _ _ => rfl
  | (k, v) :: entries => by
      intro hobjects hparts
      rw [documentedEntries]
      by_cases hk : k = componentsKey
      · cases v with
        | arr items =>
            rw [fragmentsUnder, if_pos hk] at hparts
            rw [documented, fragmentsUnder, fragmentsUnder, if_pos hk, if_pos hk]
            refine filterMap_fragmentsOf_documented items (hobjects items ?_) hparts
            rw [Table.get?_cons, if_pos hk]
        | _ => simp only [documented, fragmentsUnder, if_pos hk]
      · have hrest := filterMap_fragmentsUnder_documented entries
        have hother : Table.get? componentsKey ((k, v) :: entries) =
            Table.get? componentsKey entries := by
          rw [Table.get?_cons, if_neg hk]
        have hunder (w : Json) : fragmentsUnder ((k, w) :: documentedEntries entries) =
            fragmentsUnder (documentedEntries entries) := by
          cases w <;> simp only [fragmentsUnder, if_neg hk]
        have hunder' : fragmentsUnder ((k, v) :: entries) = fragmentsUnder entries := by
          cases v <;> simp only [fragmentsUnder, if_neg hk]
        rw [hunder'] at hparts
        rw [hunder, hunder']
        exact hrest (hother ▸ hobjects) hparts

theorem filterMap_fragmentsOf_documented :
    ∀ items : List Json, (∀ v ∈ items, v.IsObject) → AreParts (fragmentsOf items) →
      (fragmentsOf (documentedItems items)).filterMap photoUrl? =
        (fragmentsOf items).filterMap photoUrl?
  | [] => fun _ _ => rfl
  | v :: vs => by
      intro hobjects hparts
      obtain ⟨hobject, hobjects'⟩ := List.forall_mem_cons.mp hobjects
      rw [fragmentsOf] at hparts
      have hfirst := photoUrls_documented v hobject
        fun fields hfields => hparts fields (List.mem_append_left _ hfields)
      have hrest := filterMap_fragmentsOf_documented vs hobjects'
        fun fields hfields => hparts fields (List.mem_append_right _ hfields)
      rw [documentedItems, fragmentsOf, fragmentsOf, List.filterMap_append, List.filterMap_append,
        hrest]
      exact congrArg (· ++ _) hfirst

end

end Json

/-- A document has the photos of its article. -/
theorem photoUrls_of_validateDocument {article document : Table Json}
    (hrole : isPhoto article = false) (hpart : IsPart article)
    (hparts : AreParts (allFragments article))
    (h : validateDocument (.ofJson (.obj article)) = .ok document) :
    photoUrls document = photoUrls article := by
  have hdocument : (Json.obj article).documented = .obj document := by
    rw [Json.documented, eq_ofEntries_of_validateDocument h]
  have hrole' : isPhoto document = false := by
    have hentries := Json.obj.inj ((Json.documented_obj hpart.distinct).symm.trans hdocument)
    rw [← hentries, Json.isPhoto_documentedEntries, hrole]
  have hall : AreParts (Json.obj article).fragments := by
    intro fields hfields
    rw [Json.fragments_obj, Json.fragmentsUnder_eq] at hfields
    rcases List.mem_cons.mp hfields with hown | hinside
    · exact Json.obj.inj hown ▸ hpart
    · exact hparts fields hinside
  have hphotos := Json.photoUrls_documented (.obj article) ⟨article, rfl⟩ hall
  rw [photoUrls_eq hrole', photoUrls_eq hrole, ← hphotos, hdocument]

end ArticleExport
