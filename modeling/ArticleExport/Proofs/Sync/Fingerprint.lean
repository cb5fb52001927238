import ArticleExport.Proofs.Json.Printing
import ArticleExport.Proofs.Json.Scalars
import ArticleExport.Proofs.Table
import ArticleExport.Sync.Fingerprint

/-!
# What a fingerprint sees

The text of which a fingerprint is taken tells two exports apart exactly when they
differ in something that lasts: in the document without the fields that change with
every export, in the publish metadata, or in the bundles.  The order of names does
not matter anywhere.

Nothing but a document with something in it has a fingerprint that is not empty.
-/

namespace ArticleExport

/-! ## Fingerprints are never empty -/

namespace Sha256

theorem length_bigEndian (k n : Nat) : (bigEndian k n).length = k := by
  induction k with
  | zero => rfl
  | succ k ih => rw [bigEndian, List.length_cons, ih]

theorem length_digest (message : List UInt8) : (digest message).length = 32 := by
  simp [digest, length_bigEndian]

theorem length_hex (bytes : List UInt8) : (hex bytes).length = 2 * bytes.length := by
  induction bytes with
  | nil => rfl
  | cons b bytes ih =>
      rw [hex, List.flatMap_cons, List.length_append, ← hex, ih, List.length_cons, List.length_cons,
        List.length_cons, List.length_nil]
      omega

end Sha256

theorem length_textDigest {t u : Text} (h : textDigest t = .ok u) :
    u.length = fingerprintLength := by
  rw [textDigest] at h
  cases hbytes : Utf8.encode? t with
  | none => rw [hbytes] at h; cases h
  | some bytes =>
      rw [hbytes] at h
      obtain rfl := Except.ok.inj h
      rw [List.length_map, List.length_take, Sha256.length_hex, Sha256.length_digest]
      rfl

theorem textDigest_ne_empty (t : Text) : textDigest t ≠ .ok [] := by
  intro h
  have hlength := length_textDigest h
  cases hlength

/-- Whether a value is an object with something in it. -/
def Json.IsDocument (v : Json) : Prop := ∃ entries, v = .obj entries ∧ entries ≠ []

/-- A fingerprint is empty for anything but an object with something in it. -/
theorem fingerprint_eq_empty_iff (d : Json) (m : Table Json) (b : List Text) :
    fingerprint d m b = .ok [] ↔ ¬d.IsDocument := by
  constructor
  · rintro h ⟨entries, rfl, hne⟩
    obtain ⟨e, es, rfl⟩ := List.exists_cons_of_ne_nil hne
    rw [fingerprint] at h
    split at h
    · cases h
    · exact textDigest_ne_empty _ h
  · intro h
    rw [fingerprint]
    intro e es hd
    exact h ⟨e :: es, hd, List.cons_ne_nil e es⟩

theorem fingerprintOfText_eq_empty_iff (t : Text) (m : Table Json) (b : List Text) :
    fingerprintOfText t m b = .ok [] ↔ ∀ d, Json.parse? t = some d → ¬d.IsDocument := by
  rw [fingerprintOfText]
  cases Json.parse? t with
  | none => simp
  | some d => simp [fingerprint_eq_empty_iff]

theorem fingerprintOfBytes_eq_empty_iff (bytes : List UInt8) (m : Table Json) (b : List Text) :
    fingerprintOfBytes bytes m b = .ok [] ↔
      ∀ d, Json.parseBytes? bytes = some d → ¬d.IsDocument := by
  rw [fingerprintOfBytes]
  cases Json.parseBytes? bytes with
  | none => simp
  | some d => simp [fingerprint_eq_empty_iff]

/-! ## What has a fingerprint -/

/-- A text has a digest unless it has a lone surrogate. -/
theorem textDigest_eq_error_iff {t : Text} {f : Fault} :
    textDigest t = .error f ↔ ¬t.IsScalar ∧ f = .unencodable := by
  rw [textDigest, ← Utf8.isSome_encode?_iff]
  cases Utf8.encode? t with
  | none => simp [eq_comm]
  | some bytes => simp

theorem isScalar_set_iff {d : Table Json} (hd : (Json.obj d).IsScalar) {name : Text} {v : Json} :
    (Json.obj (Table.set name v d)).IsScalar ↔ name.IsScalar ∧ v.IsScalar := by
  rw [Json.isScalar_obj] at hd ⊢
  constructor
  · intro h
    have hentry : Table.get? name (Table.set name v d) = some v := by
      rw [Table.get?_set, if_pos rfl]
    exact h (name, v) (Table.mem_of_get?_eq_some hentry)
  · intro hnew e he
    rcases Table.mem_set he with rfl | he
    · exact hnew
    · exact hd e he

theorem isScalar_normalizeDocument {d : Table Json} (hd : (Json.obj d).IsScalar) :
    (Json.obj (normalizeDocument d)).IsScalar := by
  rw [normalizeDocument]
  split
  · rename_i metadata hmetadata
    have hscalar := Json.isScalar_obj.mp hd _ (Table.mem_of_get?_eq_some hmetadata)
    refine (isScalar_set_iff hd).mpr ⟨hscalar.1, ?_⟩
    rw [Json.isScalar_obj]
    intro e he
    exact Json.isScalar_obj.mp hscalar.2 e (List.mem_filter.mp he).1
  · exact hd

/-- What a fingerprint is taken of has a byte form where each of its three parts has one. -/
theorem isScalar_fingerprintValue_iff
    {d m : Table Json} {b : List Text} (hd : (Json.obj d).IsScalar) :
    (fingerprintValue d m b).IsScalar ↔ (Json.obj m).IsScalar ∧ ∀ t ∈ b, t.IsScalar := by
  have hbundles : (Json.arr (b.map Json.str)).IsScalar ↔ ∀ t ∈ b, t.IsScalar := by
    rw [Json.isScalar_arr, List.forall_mem_map]
    exact forall₂_congr fun t _ => Json.isScalar_str
  rw [fingerprintValue, isScalar_set_iff (isScalar_normalizeDocument hd), Json.isScalar_obj]
  simp only [List.forall_mem_cons, checksumKey, Text.isScalar_ofString, hbundles]
  simp

/-- A document with a byte form has no fingerprint where keys of the metadata have no order, or a
text in the metadata or the bundles has no byte form. -/
theorem fingerprint_eq_error_iff
    {d m : Table Json} {b : List Text} {f : Fault} (hd : (Json.obj d).IsScalar) (hne : d ≠ []) :
    fingerprint (.obj d) m b = .error f ↔
      (∃ later earlier, (fingerprintValue d m b).unordered? = some (later, earlier) ∧
        f = .unorderedKeys later.kindName earlier.kindName) ∨
      ((fingerprintValue d m b).unordered? = none ∧
        ¬((Json.obj m).IsScalar ∧ ∀ t ∈ b, t.IsScalar) ∧ f = .unencodable) := by
  obtain ⟨e, es, rfl⟩ := List.exists_cons_of_ne_nil hne
  rw [fingerprint]
  split
  · rename_i later earlier hunordered
    simp [hunordered, eq_comm]
  · rename_i hordered
    rw [textDigest_eq_error_iff, fingerprintText, Json.isScalar_canonicalText_iff,
      isScalar_fingerprintValue_iff hd]
    simp [hordered]

/-- Whatever can be written has a fingerprint, if the keys of its mappings have an order. -/
theorem exists_fingerprint
    {d m : Table Json} {b : List Text} (hd : (Json.obj d).IsScalar) (hm : (Json.obj m).IsScalar)
    (hb : ∀ t ∈ b, t.IsScalar) (hordered : (fingerprintValue d m b).unordered? = none) :
    ∃ t, fingerprint (.obj d) m b = .ok t := by
  by_cases hne : d = []
  · rw [hne]
    exact ⟨[], rfl⟩
  · cases hfresh : fingerprint (.obj d) m b with
    | ok t => exact ⟨t, rfl⟩
    | error f =>
        rcases (fingerprint_eq_error_iff hd hne).mp hfresh with ⟨_, _, hunordered, -⟩ | ⟨-, hsurrogate, -⟩
        · rw [hordered] at hunordered
          cases hunordered
        · exact (hsurrogate ⟨hm, hb⟩).elim

/-! ## The text that is hashed -/

/-- Metadata without the fields that change with every export. -/
def lastingMetadata : Json → Json
  | .obj metadata => .obj (metadata.filter fun e => !volatileFields.contains e.1)
  | v => v

/-- What of a document lasts: neither a checksum nor the fields of its metadata that change with
every export. -/
def lasting (document : Table Json) : Table Json :=
  (Table.erase checksumKey document).map fun e =>
    if e.1 = metadataKey then (e.1, lastingMetadata e.2) else e

/-- What is published with a document, as it joins the document. -/
def companions (metadata : Table Json) (bundles : List Text) : Json :=
  .obj [("meta", .obj metadata), ("bundles", .arr (bundles.map Json.str))]

theorem normalizeDocument_eq_map {d : Table Json} (h : Table.Distinct d) :
    normalizeDocument d =
      d.map fun e => if e.1 = metadataKey then (e.1, lastingMetadata e.2) else e := by
  rw [normalizeDocument]
  split
  · rename_i metadata hmetadata
    have hstable : Json.obj (stableMetadata metadata) = lastingMetadata (.obj metadata) := rfl
    rw [hstable]
    exact Table.set_eq_map h hmetadata lastingMetadata
  · rename_i hother
    cases hvalue : Table.get? metadataKey d with
    | none => exact (Table.map_of_not_mem (Table.get?_eq_none_iff.mp hvalue) _).symm
    | some v =>
        have hlasting : lastingMetadata v = id v := by
          cases v with
          | obj metadata => exact absurd hvalue (hother metadata)
          | _ => rfl
        rw [← Table.set_eq_map h hvalue lastingMetadata, hlasting, Table.set_eq_map h hvalue id]
        simp

theorem erase_normalizeDocument {d : Table Json} (h : Table.Distinct d) :
    Table.erase checksumKey (normalizeDocument d) = lasting d := by
  rw [normalizeDocument_eq_map h, Table.erase, lasting, List.filter_map, Table.erase]
  refine congrArg (List.map _) (List.filter_congr ?_)
  intro e _
  by_cases hmetadata : e.1 = metadataKey <;> simp [hmetadata]

section Exact

variable {d m : Table Json}

theorem isExact_lastingMetadata {v : Json} (h : v.IsExact) : (lastingMetadata v).IsExact := by
  cases h with
  | obj hdistinct hentries =>
      refine .obj (hdistinct.sublist (List.filter_sublist.map Prod.fst)) ?_
      intro e he
      exact hentries e (List.mem_filter.mp he).1
  | null => exact .null
  | bool b => exact .bool b
  | int n => exact .int n
  | str t => exact .str t
  | arr h => exact .arr h

theorem isExact_normalizeDocument (h : (Json.obj d).IsExact) :
    (Json.obj (normalizeDocument d)).IsExact := by
  obtain ⟨hdistinct, hentries⟩ := Json.isExact_obj.mp h
  rw [normalizeDocument_eq_map hdistinct]
  refine .obj ?_ ?_
  · have hkeys : Table.keys (d.map fun e =>
        if e.1 = metadataKey then (e.1, lastingMetadata e.2) else e) = Table.keys d := by
      rw [Table.keys, List.map_map, Table.keys]
      refine List.map_congr_left ?_
      intro e _
      by_cases hmetadata : e.1 = metadataKey <;> simp [hmetadata]
    rw [Table.Distinct, hkeys]
    exact hdistinct
  · intro e he
    obtain ⟨f, hf, rfl⟩ := List.mem_map.mp he
    by_cases hmetadata : f.1 = metadataKey
    · rw [if_pos hmetadata]
      exact isExact_lastingMetadata (hentries f hf)
    · rw [if_neg hmetadata]
      exact hentries f hf

theorem isExact_texts (b : List Text) : (Json.arr (b.map Json.str)).IsExact := by
  refine .arr ?_
  intro v hv
  obtain ⟨t, -, rfl⟩ := List.mem_map.mp hv
  exact .str t

theorem isExact_bundlesEntry (b : List Text) :
    (Json.obj [("bundles", .arr (b.map Json.str))]).IsExact :=
  Json.isExact_obj_cons.mpr ⟨List.not_mem_nil, isExact_texts b, .obj .nil (by simp)⟩

theorem isExact_companions (h : (Json.obj m).IsExact) (b : List Text) :
    (companions m b).IsExact := by
  have hnames : Text.ofString "meta" ∉ [Text.ofString "bundles"] := by decide
  exact Json.isExact_obj_cons.mpr ⟨hnames, h, isExact_bundlesEntry b⟩

theorem isExact_lasting_with (h : (Json.obj d).IsExact) {v : Json} (hv : v.IsExact) :
    (Json.obj ((checksumKey, v) :: lasting d)).IsExact := by
  have hnormal := Json.isExact_obj.mp (isExact_normalizeDocument h)
  rw [Json.isExact_obj_cons, ← erase_normalizeDocument (Json.isExact_obj.mp h).1]
  refine ⟨Table.not_mem_keys_erase _ _, hv, .obj (hnormal.1.erase _) ?_⟩
  intro e he
  exact hnormal.2 e (List.mem_filter.mp he).1

/-- What a fingerprint is taken of says what lasts of the document and what is published with it. -/
theorem fingerprintValue_reordered (h : (Json.obj d).IsExact) (m : Table Json) (b : List Text) :
    Json.Reordered (fingerprintValue d m b)
      (.obj ((checksumKey, companions m b) :: lasting d)) := by
  have hnormal := Json.isExact_obj.mp (isExact_normalizeDocument h)
  rw [← erase_normalizeDocument (Json.isExact_obj.mp h).1]
  exact .perm (Table.set_perm hnormal.1 _ _)

theorem isExact_fingerprintValue
    (hd : (Json.obj d).IsExact) (hm : (Json.obj m).IsExact) (b : List Text) :
    (fingerprintValue d m b).IsExact :=
  (fingerprintValue_reordered hd m b).symm.isExact
    (isExact_lasting_with hd (isExact_companions hm b))

end Exact

/-- What is published with a document says the same when the metadata say the same and the bundles
are equal. -/
theorem companions_reordered_iff
    {m₁ m₂ : Table Json} (h₁ : (Json.obj m₁).IsExact) (h₂ : (Json.obj m₂).IsExact)
    (b₁ b₂ : List Text) :
    Json.Reordered (companions m₁ b₁) (companions m₂ b₂) ↔
      Json.Reordered (.obj m₁) (.obj m₂) ∧ b₁ = b₂ := by
  have htexts (b : List Text) :
      (Json.arr (b.map Json.str)).inOrder = .arr (b.map Json.str) := by
    simp [Json.inOrder, Json.inOrderItems_eq_map, Function.comp_def]
  have hbundles : Json.Reordered (.arr (b₁.map Json.str)) (.arr (b₂.map Json.str)) ↔ b₁ = b₂ := by
    rw [Json.reordered_iff_inOrder_eq (isExact_texts b₁) (isExact_texts b₂), htexts, htexts,
      Json.arr.injEq]
    exact List.map_inj_right fun _ _ => Json.str.inj
  rw [companions, companions,
    Json.reordered_obj_cons_iff (isExact_companions h₁ b₁) (isExact_companions h₂ b₂),
    Json.reordered_obj_cons_iff (isExact_bundlesEntry b₁) (isExact_bundlesEntry b₂), hbundles]
  constructor
  · rintro ⟨hm, hb, -⟩
    exact ⟨hm, hb⟩
  · rintro ⟨hm, hb⟩
    exact ⟨hm, hb, .refl _⟩

/-- The text of a fingerprint is the same exactly when what lasts of the documents says the same,
the metadata say the same, and the bundles are equal. -/
theorem fingerprintText_eq_iff
    {d₁ d₂ m₁ m₂ : Table Json}
    (hd₁ : (Json.obj d₁).IsExact) (hd₂ : (Json.obj d₂).IsExact)
    (hm₁ : (Json.obj m₁).IsExact) (hm₂ : (Json.obj m₂).IsExact) (b₁ b₂ : List Text) :
    fingerprintText d₁ m₁ b₁ = fingerprintText d₂ m₂ b₂ ↔
      Json.Reordered (.obj (lasting d₁)) (.obj (lasting d₂)) ∧
        Json.Reordered (.obj m₁) (.obj m₂) ∧ b₁ = b₂ := by
  rw [fingerprintText, fingerprintText,
    Json.canonicalText_eq_iff (isExact_fingerprintValue hd₁ hm₁ b₁)
      (isExact_fingerprintValue hd₂ hm₂ b₂)]
  have h₁ := fingerprintValue_reordered hd₁ m₁ b₁
  have h₂ := fingerprintValue_reordered hd₂ m₂ b₂
  have hsplit := Json.reordered_obj_cons_iff
    (isExact_lasting_with hd₁ (isExact_companions hm₁ b₁))
    (isExact_lasting_with hd₂ (isExact_companions hm₂ b₂))
  rw [companions_reordered_iff hm₁ hm₂] at hsplit
  constructor
  · intro h
    obtain ⟨hcompanions, hlasting⟩ := hsplit.mp ((h₁.symm.trans h).trans h₂)
    exact ⟨hlasting, hcompanions⟩
  · rintro ⟨hlasting, hcompanions⟩
    exact (h₁.trans (hsplit.mpr ⟨hcompanions, hlasting⟩)).trans h₂.symm

theorem fingerprint_of_exact
    {d m : Table Json} (hd : (Json.obj d).IsExact) (hm : (Json.obj m).IsExact) (hne : d ≠ [])
    (b : List Text) :
    fingerprint (.obj d) m b = textDigest (fingerprintText d m b) := by
  obtain ⟨e, es, rfl⟩ := List.exists_cons_of_ne_nil hne
  rw [fingerprint, (isExact_fingerprintValue hd hm b).unordered?_eq_none]

end ArticleExport
