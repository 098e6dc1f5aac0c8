import Mathlib.Data.List.Forall2
import MountainRange.Proofs.Canonical
import MountainRange.Proofs.Spelling
import MountainRange.Service
set_option autoImplicit false

/-!
# Requests read from payloads

A payload spells a request if its numbers are those of the request and its texts spell
the digests of the request in base sixteen.  However they do that, the fields of the
payload pass every check, and the request is built from them.
-/

namespace MountainRange

open Text (SpellsHex)

/-! ## Digests -/

namespace WideDigest

theorem toNat_lt (d : WideDigest) : d.toNat < limbBound * limbBound :=
  calc d.high.val * limbBound + d.low.val < (d.high.val + 1) * limbBound := by
        rw [Nat.succ_mul]
        exact Nat.add_lt_add_left d.low.isLt _
    _ ≤ limbBound * limbBound := Nat.mul_le_mul_right _ d.high.isLt

theorem ofNat_toNat (d : WideDigest) (h : d.toNat < limbBound * limbBound) :
    ofNat d.toNat h = d := by
  obtain ⟨high, low⟩ := d
  have hdiv : (high.val * limbBound + low.val) / limbBound = high.val := by
    rw [Nat.mul_comm, Nat.mul_add_div limbBound_pos, Nat.div_eq_of_lt low.isLt, Nat.add_zero]
  have hmod : (high.val * limbBound + low.val) % limbBound = low.val := by
    rw [Nat.mul_add_mod_self_right, Nat.mod_eq_of_lt low.isLt]
  simp only [ofNat, toNat, hdiv, hmod]

theorem ofInt?_toNat (d : WideDigest) : ofInt? d.toNat = .ok d := by
  have hfits : (0 : Int) ≤ d.toNat ∧ (d.toNat : Int) < limbBound * limbBound :=
    ⟨Int.natCast_nonneg _, by exact_mod_cast d.toNat_lt⟩
  rw [ofInt?, dif_pos hfits]
  exact congrArg Except.ok (d.ofNat_toNat d.toNat_lt)

end WideDigest

theorem CompactDigest.ofInt?_toNat (d : CompactDigest) : ofInt? d.toNat = .ok d :=
  CompactDigest.ofInt?_val d.value

namespace FieldText

theorem spells_of_spellsHex {n : Nat} {t : Text} (h : SpellsHex n t) : Spells n (.text t) := by
  have hspells := @Spells.hexadecimal n [] t [] (fun _ hc => nomatch hc) h
    (fun _ hc => nomatch hc)
  rw [List.nil_append, List.append_nil] at hspells
  exact hspells

theorem parseWide_of_spellsHex (d : WideDigest) (t : Text) (h : SpellsHex d.toNat t) :
    parseWide (.text t) = .ok d := by
  have hparse := parse_of_spells (spells_of_spellsHex h)
  refine bind_eq_ok_iff.mpr ⟨d.toNat, hparse, ?_⟩
  rw [WideDigest.ofInt?_toNat]
  rfl

theorem parseCompact_of_spellsHex (d : CompactDigest) (t : Text) (h : SpellsHex d.toNat t) :
    parseCompact (.text t) = .ok d := by
  have hparse := parse_of_spells (spells_of_spellsHex h)
  refine bind_eq_ok_iff.mpr ⟨d.toNat, hparse, ?_⟩
  rw [CompactDigest.ofInt?_toNat]
  rfl

end FieldText

/-- Items are read as a list if each is read as the entry at its place. -/
theorem mapM_eq_ok_of_forall₂ {ε α β : Type} {f : α → Except ε β} {items : List α}
    {entries : List β} (h : List.Forall₂ (fun x b => f x = .ok b) items entries) :
    items.mapM f = .ok entries := by
  induction h with
  | nil => rfl
  | @cons x b items entries hx _ ih =>
      rw [List.mapM_cons, hx, ih]
      rfl

/-! ## Payloads -/

namespace Payload

/-- A structured proof spells a request: it has the numbers of the request, its texts
spell the digests of the request, and it expects no leaf. -/
structure Proof.Spells (p : Proof) (r : Request) : Prop where
  mode_eq : p.mode = r.mode
  root : SpellsHex r.root.toNat p.root
  leaf : SpellsHex r.leaf.toNat p.leaf
  expectedLeaf_eq : p.expectedLeaf = none
  leafIndex_eq : p.leafIndex = r.leafIndex.toNat
  size_eq : p.size = r.size.toNat
  siblings : List.Forall₂ (fun d t => SpellsHex (Digest.toNat d) t) r.siblings p.siblings
  peaks : List.Forall₂ (fun d t => SpellsHex (Digest.toNat d) t) r.peaks p.peaks

/-- An object has a list of texts in a field; an empty list may be left out. -/
def HasTexts (fields : Fields) (name : Text) (texts : List Text) : Prop :=
  Value.field? fields name = some (.array (texts.map .text)) ∨
    (texts = [] ∧ Value.field? fields name = none)

/-- An object holds the parts of a structured proof in its fields, and no leaf that is
expected. -/
structure Carries (fields : Fields) (p : Proof) : Prop where
  mode : Value.field? fields "mode" = some (.int p.mode.number)
  root : Value.field? fields "root" = some (.text p.root)
  leaf : Value.field? fields "leaf" = some (.text p.leaf)
  expectedLeaf : Value.field? fields "expected_leaf" = none ∨
    Value.field? fields "expected_leaf" = some .null
  leafIndex : Value.field? fields "leaf_index" = some (.int p.leafIndex)
  size : Value.field? fields "mmr_size" = some (.int p.size)
  siblings : HasTexts fields "siblings" p.siblings
  peaks : HasTexts fields "peaks" p.peaks

/-! ## Reading the fields -/

theorem hexFault?_of_spellsHex {n : Nat} {t : Text} (h : SpellsHex n t) : hexFault? t = none := by
  obtain ⟨digits, ds, rfl, hds, hne, -⟩ := h.exists_digits
  cases digits with
  | nil => exact absurd (List.map_eq_nil_iff.mp hds.symm) hne
  | cons c digits =>
      have hhex : (c :: digits).all Text.isHexDigit = true := Text.all_isHexDigit hds
      exact if_pos hhex

theorem hex_eq_ok (place : List Place) {t : Text} (h : hexFault? t = none) :
    hex place (.text t) = .ok t := by
  refine bind_eq_ok_iff.mpr ⟨t, rfl, ?_⟩
  rw [h]
  rfl

theorem all_mapIdx_text (read : Nat → Value → Checked Text)
    (hread : ∀ i t, read i (.text t) = .ok t) (texts : List Text) :
    Checked.all ((texts.map Value.text).mapIdx read) = .ok texts := by
  induction texts generalizing read with
  | nil => rfl
  | cons t texts ih =>
      rw [List.map_cons, List.mapIdx_cons, Checked.all, hread,
        ih (fun i => read (i + 1)) fun i => hread (i + 1)]
      rfl

theorem hexList_eq_ok (place : List Place) {texts : List Text}
    (h : ∀ t ∈ texts, hexFault? t = none) :
    hexList place (.array (texts.map .text)) = .ok texts := by
  have hfaults : texts.findSome? hexFault? = none := List.findSome?_eq_none_iff.mpr h
  refine bind_eq_ok_iff.mpr ⟨texts, all_mapIdx_text _ (fun _ _ => rfl) texts, ?_⟩
  rw [hfaults]
  rfl

theorem natural_eq_ok (place : List Place) (n : Nat) : natural place (.int n) = .ok n := by
  refine bind_eq_ok_iff.mpr ⟨n, rfl, ?_⟩
  rw [if_neg (Int.not_lt.mpr (Int.natCast_nonneg n))]
  rfl

theorem mode_eq_ok (place : List Place) (m : Mode) :
    Payload.mode place (.int m.number) = .ok m := by
  cases m <;> rfl

section Fields

variable {α : Type} {fields : Fields} {name : Text} {read : List Place → Value → Checked α}
  {v : Value} {x : α}

/-- A field that is there is read by its reader. -/
theorem required_eq_ok (hfield : Value.field? fields name = some v)
    (hread : read [.name name] v = .ok x) : required fields name read = .ok x := by
  rw [required, hfield]
  exact hread

theorem optional_eq_ok {default : α} (hfield : Value.field? fields name = some v)
    (hread : read [.name name] v = .ok x) : optional fields name default read = .ok x := by
  rw [optional, hfield]
  exact hread

theorem optional_eq_default (default : α) (hfield : Value.field? fields name = none) :
    optional fields name default read = .ok default := by
  rw [optional, hfield]

end Fields

theorem optional_hexList_eq_ok {fields : Fields} {name : Text} {texts : List Text}
    (hfields : HasTexts fields name texts) (h : ∀ t ∈ texts, hexFault? t = none) :
    optional fields name [] hexList = .ok texts := by
  rcases hfields with hfield | ⟨rfl, hfield⟩
  · exact optional_eq_ok hfield (hexList_eq_ok _ h)
  · exact optional_eq_default [] hfield

theorem hexFault?_of_forall₂ {digests : List Digest} {texts : List Text}
    (h : List.Forall₂ (fun d t => SpellsHex (Digest.toNat d) t) digests texts) :
    ∀ t ∈ texts, hexFault? t = none := by
  induction h with
  | nil => exact fun _ ht => nomatch ht
  | cons hfirst _ ih =>
      intro t ht
      rcases List.mem_cons.mp ht with rfl | ht
      · exact hexFault?_of_spellsHex hfirst
      · exact ih t ht

/-- The structured proof is read from the fields that carry it. -/
theorem Proof.read_eq_ok {fields : Fields} {p : Proof} {r : Request} (hcarries : Carries fields p)
    (hspells : p.Spells r) : Proof.read fields = .ok p := by
  have hmode := required_eq_ok hcarries.mode (mode_eq_ok _ p.mode)
  have hroot := required_eq_ok hcarries.root (hex_eq_ok _ (hexFault?_of_spellsHex hspells.root))
  have hleaf := required_eq_ok hcarries.leaf (hex_eq_ok _ (hexFault?_of_spellsHex hspells.leaf))
  have hexpected : optional fields "expected_leaf" none hexOrNull = .ok p.expectedLeaf := by
    rw [hspells.expectedLeaf_eq]
    rcases hcarries.expectedLeaf with hfield | hfield
    · exact optional_eq_default none hfield
    · exact optional_eq_ok hfield rfl
  have hindex := required_eq_ok hcarries.leafIndex (natural_eq_ok _ p.leafIndex)
  have hsize := required_eq_ok hcarries.size (natural_eq_ok _ p.size)
  have hsiblings := optional_hexList_eq_ok hcarries.siblings
    (hexFault?_of_forall₂ hspells.siblings)
  have hpeaks := optional_hexList_eq_ok hcarries.peaks (hexFault?_of_forall₂ hspells.peaks)
  unfold Proof.read
  rw [hmode, hroot, hleaf, hexpected, hindex, hsize, hsiblings, hpeaks]
  rfl

end Payload

namespace Service

/-! ## Building the request -/

theorem word?_toNat (name : String) (n : UInt64) : word? name (.int n.toNat) = .ok n := by
  have hfits : (0 : Int) ≤ n.toNat ∧ (n.toNat : Int) < UInt64.size :=
    ⟨Int.natCast_nonneg _, by exact_mod_cast n.toNat_lt⟩
  rw [word?, if_pos hfits]
  exact congrArg Except.ok UInt64.ofNat_toNat

/-- Digests are read from texts that spell them. -/
theorem mapM_digests_eq_ok {D : Type} {parse : Value → Except FieldError D} {number : D → Nat}
    (hparse : ∀ d t, SpellsHex (number d) t → parse (.text t) = .ok d) {digests : List D}
    {texts : List Text} (h : List.Forall₂ (fun d t => SpellsHex (number d) t) digests texts) :
    texts.mapM (fun t => (parse (.text t)).mapError ServiceError.field) = .ok digests := by
  apply mapM_eq_ok_of_forall₂
  refine h.flip.imp ?_
  intro t d ht
  rw [hparse d t ht]
  rfl

theorem buildInclusion_eq_ok {D : Type} {parse : Value → Except FieldError D} {number : D → Nat}
    (hparse : ∀ d t, SpellsHex (number d) t → parse (.text t) = .ok d) {p : Payload.Proof}
    {proof : Inclusion D} (hroot : SpellsHex (number proof.root) p.root)
    (hleaf : SpellsHex (number proof.leaf) p.leaf)
    (hindex : p.leafIndex = proof.leafIndex.toNat) (hsize : p.size = proof.size.toNat)
    (hsiblings : List.Forall₂ (fun d t => SpellsHex (number d) t) proof.siblings p.siblings)
    (hpeaks : List.Forall₂ (fun d t => SpellsHex (number d) t) proof.peaks p.peaks) :
    buildInclusion parse p = .ok proof := by
  unfold buildInclusion
  dsimp only
  rw [hparse _ _ hroot, hparse _ _ hleaf, mapM_digests_eq_ok hparse hsiblings,
    mapM_digests_eq_ok hparse hpeaks, hindex, hsize, word?_toNat, word?_toNat]
  rfl

/-- The request is built from the payloads that spell it. -/
theorem buildRequest_eq_ok {p : Payload.Proof} {r : Request} (h : p.Spells r) :
    buildRequest p = .ok r := by
  have hmode := h.mode_eq
  have hsiblings := h.siblings
  have hpeaks := h.peaks
  cases r with
  | wide proof =>
      rw [Request.siblings, List.forall₂_map_left_iff] at hsiblings
      rw [Request.peaks, List.forall₂_map_left_iff] at hpeaks
      have hproof := buildInclusion_eq_ok FieldText.parseWide_of_spellsHex h.root h.leaf
        h.leafIndex_eq h.size_eq hsiblings hpeaks
      rw [buildRequest, hmode]
      show Request.wide <$> buildInclusion FieldText.parseWide p = _
      rw [hproof]
      rfl
  | compact proof =>
      rw [Request.siblings, List.forall₂_map_left_iff] at hsiblings
      rw [Request.peaks, List.forall₂_map_left_iff] at hpeaks
      have hproof := buildInclusion_eq_ok FieldText.parseCompact_of_spellsHex h.root h.leaf
        h.leafIndex_eq h.size_eq hsiblings hpeaks
      rw [buildRequest, hmode]
      show Request.compact <$> buildInclusion FieldText.parseCompact p = _
      rw [hproof]
      rfl

end Service

end MountainRange
