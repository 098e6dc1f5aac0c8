import MountainRange.Proofs.Slots
set_option autoImplicit false

/-!
# The grammar of sequences

The sequences that make a request are those that have the form of one: field elements
throughout, a mode, two numbers of 64 bits, two counts that stand where the digests in
front of them end, as many slots as the counts ask for, and under the wide scheme only
limbs where digests stand.  The decoder accepts exactly these.
-/

namespace MountainRange

/-- The number of slots of a digest of a mode. -/
def Mode.width : Mode → Nat
  | .wide => 2
  | .compact => 1

/-- What the slots of the digests of a mode stay below. -/
def Mode.slotBound : Mode → Nat
  | .wide => limbBound
  | .compact => fieldPrime

namespace Encoding

/-- Whether a slot belongs to the root or the leaf, to a sibling or to a peak. -/
def IsDigestSlot (width siblings i : Nat) : Prop :=
  (1 ≤ i ∧ i < 2 * width + 1) ∨
    (2 * width + 4 ≤ i ∧ i < 2 * width + 4 + siblings * width) ∨
    2 * width + 5 + siblings * width ≤ i

/-- A sequence has the form of a request of some mode with some numbers of siblings and
peaks. -/
structure Grammar (raw : List Value) (mode : Mode) (siblings peaks : Nat) : Prop where
  isFelt : ∀ v ∈ raw, ∃ n : Int, v = .int n ∧ 0 ≤ n ∧ n < fieldPrime
  mode_slot : raw[0]? = some (.int mode.number)
  minimum_le : 2 * mode.width + 5 ≤ raw.length
  leafIndex_slot : ∃ n : Nat, raw[2 * mode.width + 1]? = some (.int n) ∧ n < 2 ^ 64
  size_slot : ∃ n : Nat, raw[2 * mode.width + 2]? = some (.int n) ∧ n < 2 ^ 64
  siblings_slot : raw[2 * mode.width + 3]? = some (.int siblings)
  siblings_le : siblings ≤ 64
  peaks_slot : raw[2 * mode.width + 4 + siblings * mode.width]? = some (.int peaks)
  peaks_le : peaks ≤ 64
  length_eq : raw.length = 2 * mode.width + 5 + (siblings + peaks) * mode.width
  limb_lt : mode = .wide → ∀ (i n : Nat), IsDigestSlot mode.width siblings i →
    raw[i]? = some (.int n) → n < 2 ^ 128

/-! ## The grammar of an encoded request -/

section Encoded

variable {D : Type} {layout : Layout D} {slots : D → List Felt} (law : layout.Lawful slots)
  (proof : Inclusion D)
include law

/-- What stands in a slot of a digest is part of a digest. -/
theorem exists_digest_of_slot {i n : Nat}
    (hi : IsDigestSlot layout.width proof.siblings.length i)
    (hn : (encodeProof layout proof)[i]? = some n) : ∃ d, n ∈ layout.write d := by
  have hlt := (List.getElem?_eq_some_iff.mp hn).1
  rw [length_encodeProof law, Nat.add_mul] at hlt
  have hhead : encodeProof layout proof = [layout.mode.number] ++
      ((layout.write proof.root ++ layout.write proof.leaf) ++
        (encodeProof layout proof).drop (2 * layout.width + 1)) := by
    rw [encodeProof_eq_headSlots, ← length_headSlots law proof, List.drop_left]
    rfl
  have hsiblings : encodeProof layout proof =
      (headSlots layout proof ++
        [proof.leafIndex.toNat, proof.size.toNat, proof.siblings.length]) ++
      (proof.siblings.flatMap layout.write ++
        proof.peaks.length :: proof.peaks.flatMap layout.write) := by
    rw [encodeProof_eq_slotsToPeaks, slotsToPeaks, List.append_assoc]
  have hpeaks : encodeProof layout proof = (slotsToPeaks layout proof ++ [proof.peaks.length]) ++
      (proof.peaks.flatMap layout.write ++ []) := by
    simp [encodeProof_eq_slotsToPeaks]
  have hdigests : (layout.write proof.root ++ layout.write proof.leaf).length =
      2 * layout.width := by
    simp only [List.length_append, law.length_write, Nat.two_mul]
  have hnumbers : (headSlots layout proof ++
      [proof.leafIndex.toNat, proof.size.toNat, proof.siblings.length]).length =
      2 * layout.width + 4 := by
    rw [List.length_append, length_headSlots law]
    rfl
  have hcount : (slotsToPeaks layout proof ++ [proof.peaks.length]).length =
      2 * layout.width + 5 + proof.siblings.length * layout.width := by
    rw [List.length_append, length_slotsToPeaks law, List.length_singleton]
    omega
  have hflat := law.length_flatMap_write
  rcases hi with ⟨hfrom, hto⟩ | ⟨hfrom, hto⟩ | hfrom
  · have hmem := mem_of_append_append hhead hfrom
      (by rw [hdigests, List.length_singleton]; omega) hn
    rcases List.mem_append.mp hmem with h | h
    · exact ⟨_, h⟩
    · exact ⟨_, h⟩
  · have hmem := mem_of_append_append hsiblings (by omega) (by rw [hnumbers, hflat]; exact hto) hn
    obtain ⟨d, -, h⟩ := List.mem_flatMap.mp hmem
    exact ⟨d, h⟩
  · have hmem := mem_of_append_append hpeaks (by omega) (by rw [hcount, hflat]; omega) hn
    obtain ⟨d, -, h⟩ := List.mem_flatMap.mp hmem
    exact ⟨d, h⟩

end Encoded

end Encoding

namespace Mode

theorem width_layout (mode : Mode) : mode.layout.width = mode.width := by
  cases mode <;> rfl

theorem mode_request (mode : Mode) (proof : Inclusion mode.Form) :
    (mode.request proof).mode = mode := by
  cases mode <;> rfl

/-- The slots of a digest stay below the bound of its mode. -/
theorem lt_slotBound_of_mem_write {mode : Mode} {d : mode.Form} {n : Nat}
    (h : n ∈ mode.layout.write d) : n < mode.slotBound := by
  cases mode with
  | wide =>
      obtain ⟨high, low⟩ := d
      rcases List.mem_cons.mp h with rfl | h
      · exact high.isLt
      obtain rfl := List.mem_singleton.mp h
      exact low.isLt
  | compact =>
      obtain ⟨value⟩ := d
      obtain rfl := List.mem_singleton.mp h
      exact value.isLt

end Mode

namespace Encoding

theorem getElem?_encodeValues {r : Request} {i n : Nat} (h : (encode r)[i]? = some n) :
    (encodeValues r)[i]? = some (.int n) := by
  rw [encodeValues, List.getElem?_map, h]
  rfl

theorem getElem?_encode {r : Request} {i n : Nat}
    (h : (encodeValues r)[i]? = some (.int n)) : (encode r)[i]? = some n := by
  rw [encodeValues, List.getElem?_map] at h
  obtain ⟨k, hk, hvalue⟩ := Option.map_eq_some_iff.mp h
  rw [hk, Int.ofNat_inj.mp (Value.int.inj hvalue)]

/-- The slots of a request that fits have the form of a request. -/
theorem grammar_encodeValues {r : Request} (h : Fits r) :
    Grammar (encodeValues r) r.mode r.siblings.length r.peaks.length := by
  obtain ⟨mode, proof, rfl⟩ := r.exists_request
  obtain ⟨hsiblings, hpeaks⟩ := Mode.fits_request_iff.mp h
  have law := mode.layout_exact.toLawful
  have hencode : encode (mode.request proof) = encodeProof mode.layout proof :=
    Mode.encode_request
  have hlength : (encodeValues (mode.request proof)).length =
      2 * mode.width + 5 + (proof.siblings.length + proof.peaks.length) * mode.width := by
    rw [encodeValues, List.length_map, hencode, length_encodeProof law, mode.width_layout]
  rw [mode.mode_request, mode.length_siblings_request, mode.length_peaks_request]
  refine {
    isFelt := ?_
    mode_slot := getElem?_encodeValues ?_
    minimum_le := by omega
    leafIndex_slot := ⟨proof.leafIndex.toNat, getElem?_encodeValues ?_, proof.leafIndex.toNat_lt⟩
    size_slot := ⟨proof.size.toNat, getElem?_encodeValues ?_, proof.size.toNat_lt⟩
    siblings_slot := getElem?_encodeValues ?_
    siblings_le := hsiblings
    peaks_slot := getElem?_encodeValues ?_
    peaks_le := hpeaks
    length_eq := hlength
    limb_lt := ?_ }
  · intro v hv
    rw [encodeValues, encode_eq h, List.map_map] at hv
    obtain ⟨x, -, rfl⟩ := List.mem_map.mp hv
    have hx := x.isLt
    exact ⟨(x.val : Nat), rfl, by omega, by omega⟩
  · rw [hencode, slot_mode, mode.mode_layout]
  · rw [hencode, ← mode.width_layout, slot_leafIndex law]
  · rw [hencode, ← mode.width_layout, slot_size law]
  · rw [hencode, ← mode.width_layout, slot_siblings law]
  · rw [hencode, ← mode.width_layout, slot_peaks law]
  · rintro rfl i n hi hn
    rw [← Mode.width_layout] at hi
    have hslot := getElem?_encode hn
    rw [hencode] at hslot
    obtain ⟨d, hd⟩ := exists_digest_of_slot law proof hi hslot
    exact Mode.lt_slotBound_of_mem_write hd

/-! ## The request of a sequence -/

/-- A number as a slot. -/
def numberSlot (n : Nat) : Value := .int n

theorem drop_of_getElem? {α : Type} {l : List α} {i : Nat} {x : α} (h : l[i]? = some x) :
    l.drop i = x :: l.drop (i + 1) := by
  rw [List.drop_eq_getElem?_toList_append, h]
  rfl

variable {raw : List Value}

/-- Slots below the bound of a mode, as many as a digest takes, are the slots of a digest. -/
theorem exists_digest (mode : Mode) (start : Nat)
    (h : ∀ i, start ≤ i → i < start + mode.width →
      ∃ n < mode.slotBound, raw[i]? = some (numberSlot n)) :
    ∃ d : mode.Form, raw.drop start =
      (mode.layout.write d).map numberSlot ++ raw.drop (start + mode.width) := by
  cases mode with
  | wide =>
      obtain ⟨high, hhigh, hfirst⟩ := h start (Nat.le_refl _) (Nat.lt_add_of_pos_right (by decide))
      obtain ⟨low, hlow, hsecond⟩ := h (start + 1) (Nat.le_add_right _ _)
        (Nat.add_lt_add_left (by decide) _)
      refine ⟨(⟨⟨high, hhigh⟩, ⟨low, hlow⟩⟩ : WideDigest), ?_⟩
      rw [drop_of_getElem? hfirst, drop_of_getElem? hsecond]
      rfl
  | compact =>
      obtain ⟨value, hvalue, hfirst⟩ := h start (Nat.le_refl _)
        (Nat.lt_add_of_pos_right (by decide))
      refine ⟨(⟨⟨value, hvalue⟩⟩ : CompactDigest), ?_⟩
      rw [drop_of_getElem? hfirst]
      rfl

/-- As many slots as some digests take are the slots of digests. -/
theorem exists_digests (mode : Mode) (start count : Nat)
    (h : ∀ i, start ≤ i → i < start + count * mode.width →
      ∃ n < mode.slotBound, raw[i]? = some (numberSlot n)) :
    ∃ digests : List mode.Form, digests.length = count ∧ raw.drop start =
      (digests.flatMap mode.layout.write).map numberSlot ++
        raw.drop (start + count * mode.width) := by
  induction count generalizing start with
  | zero => exact ⟨[], rfl, by simp⟩
  | succ count ih =>
      rw [Nat.succ_mul] at h ⊢
      obtain ⟨d, hd⟩ := exists_digest mode start fun i hfrom hto => h i hfrom (by omega)
      obtain ⟨digests, hlength, hdigests⟩ :=
        ih (start + mode.width) fun i hfrom hto => h i (by omega) (by omega)
      refine ⟨d :: digests, by rw [List.length_cons, hlength], ?_⟩
      have hend : start + mode.width + count * mode.width =
          start + (count * mode.width + mode.width) := by omega
      rw [hd, hdigests, hend, List.flatMap_cons, List.map_append, List.append_assoc]

namespace Grammar

variable {mode : Mode} {siblings peaks : Nat}

/-- Where a digest stands, a number below the bound of the mode does. -/
theorem exists_slot (h : Grammar raw mode siblings peaks) {i : Nat} (hlt : i < raw.length)
    (hi : IsDigestSlot mode.width siblings i) :
    ∃ n < mode.slotBound, raw[i]? = some (numberSlot n) := by
  obtain ⟨n, hn, hnonneg, hlt'⟩ := h.isFelt raw[i] (List.getElem_mem hlt)
  have hslot : raw[i]? = some (numberSlot n.toNat) := by
    rw [List.getElem?_eq_getElem hlt, hn, numberSlot, Int.toNat_of_nonneg hnonneg]
  refine ⟨n.toNat, ?_, hslot⟩
  cases mode with
  | wide => exact h.limb_lt rfl i n.toNat hi hslot
  | compact =>
      show n.toNat < fieldPrime
      omega

/-- A sequence that has the form of a request is what a request is encoded to. -/
theorem exists_request (h : Grammar raw mode siblings peaks) :
    ∃ r, Fits r ∧ encodeValues r = raw := by
  obtain ⟨leafIndex, hleafIndex, hleafIndexLt⟩ := h.leafIndex_slot
  obtain ⟨size, hsize, hsizeLt⟩ := h.size_slot
  have hlength := h.length_eq
  rw [Nat.add_mul] at hlength
  -- the digests, each list from the slot where it starts
  obtain ⟨root, hroot⟩ := exists_digest mode 1
    fun i hfrom hto => h.exists_slot (by omega) (.inl ⟨hfrom, by omega⟩)
  obtain ⟨leaf, hleaf⟩ := exists_digest mode (1 + mode.width)
    fun i hfrom hto => h.exists_slot (by omega) (.inl ⟨by omega, by omega⟩)
  obtain ⟨siblingDigests, hsiblings, hsiblingsDrop⟩ :=
    exists_digests mode (2 * mode.width + 4) siblings
      fun i hfrom hto => h.exists_slot (by omega) (.inr (.inl ⟨hfrom, hto⟩))
  obtain ⟨peakDigests, hpeaks, hpeaksDrop⟩ :=
    exists_digests mode (2 * mode.width + 5 + siblings * mode.width) peaks
      fun i hfrom hto => h.exists_slot (by omega) (.inr (.inr hfrom))
  -- the numbers between them
  have hmode : raw = .int mode.number :: raw.drop 1 := drop_of_getElem? h.mode_slot
  have hnumbers : raw.drop (1 + mode.width + mode.width) = .int leafIndex :: .int size ::
      .int siblings :: raw.drop (2 * mode.width + 4) := by
    have hstart : 1 + mode.width + mode.width = 2 * mode.width + 1 := by omega
    rw [hstart, drop_of_getElem? hleafIndex, drop_of_getElem? hsize,
      drop_of_getElem? h.siblings_slot]
  have hcount : raw.drop (2 * mode.width + 4 + siblings * mode.width) =
      .int peaks :: raw.drop (2 * mode.width + 5 + siblings * mode.width) := by
    have hnext : 2 * mode.width + 4 + siblings * mode.width + 1 =
        2 * mode.width + 5 + siblings * mode.width := by omega
    rw [drop_of_getElem? h.peaks_slot, hnext]
  have hend : raw.drop (2 * mode.width + 5 + siblings * mode.width + peaks * mode.width) = [] :=
    List.drop_eq_nil_of_le (by omega)
  let proof : Inclusion mode.Form :=
    ⟨root, leaf, .ofNat leafIndex, .ofNat size, siblingDigests, peakDigests⟩
  have hindexWord : proof.leafIndex.toNat = leafIndex := UInt64.toNat_ofNat_of_lt hleafIndexLt
  have hsizeWord : proof.size.toNat = size := UInt64.toNat_ofNat_of_lt hsizeLt
  refine ⟨mode.request proof, Mode.fits_request_iff.mpr ⟨?_, ?_⟩, ?_⟩
  · exact hsiblings ▸ h.siblings_le
  · exact hpeaks ▸ h.peaks_le
  · have hencode : encodeValues (mode.request proof) =
        (encodeProof mode.layout proof).map numberSlot := by
      rw [← Mode.encode_request]
      rfl
    rw [hencode, hmode, hroot, hleaf, hnumbers, hsiblingsDrop, hcount, hpeaksDrop, hend]
    simp [encodeProof, mode.mode_layout, hindexWord, hsizeWord, hsiblings, hpeaks, numberSlot,
      proof]

end Grammar

/-- The decoder accepts exactly the sequences that have the form of a request and refuses
all others.  What it returns has the mode and the counts of the sequence and is encoded to
the whole of it. -/
theorem decode_accepts_iff_grammar (raw : List Value) :
    ((∃ r, decode raw = .ok r) ↔
        ∃ mode siblings peaks, Grammar raw mode siblings peaks) ∧
      ((¬∃ mode siblings peaks, Grammar raw mode siblings peaks) →
        ∃ refusal, decode raw = .error refusal) ∧
      ∀ r, decode raw = .ok r →
        Grammar raw r.mode r.siblings.length r.peaks.length ∧ encodeValues r = raw := by
  have hform : ∀ r, decode raw = .ok r →
      Grammar raw r.mode r.siblings.length r.peaks.length ∧ encodeValues r = raw := by
    intro r hr
    obtain ⟨hfits, rfl⟩ := decode_eq_ok_iff.mp hr
    exact ⟨grammar_encodeValues hfits, rfl⟩
  have hiff : (∃ r, decode raw = .ok r) ↔
      ∃ mode siblings peaks, Grammar raw mode siblings peaks := by
    constructor
    · rintro ⟨r, hr⟩
      exact ⟨_, _, _, (hform r hr).1⟩
    · rintro ⟨mode, siblings, peaks, hgrammar⟩
      obtain ⟨r, hr⟩ := hgrammar.exists_request
      exact ⟨r, decode_eq_ok_iff.mpr hr⟩
  refine ⟨hiff, ?_, hform⟩
  intro hnot
  cases hdecode : decode raw with
  | ok r => exact absurd (hiff.mp ⟨r, hdecode⟩) hnot
  | error refusal => exact ⟨refusal, rfl⟩

end Encoding

end MountainRange
