import MountainRange.Encoding
set_option autoImplicit false

/-!
# Encoding and decoding again

A request with no more siblings and peaks than a sequence may hold is read back from
its slots.  Each part is read back in front of whatever follows it, so that the whole
follows by reading the parts one after the other.
-/

namespace MountainRange.Encoding

/-! ## Digests in slots -/

/-- A layout writes a digest as some field elements, as many as it is wide, and reads it
back in front of whatever follows. -/
structure Layout.Lawful {D : Type} (layout : Layout D) (slots : D → List Felt) : Prop where
  write_eq : ∀ d, layout.write d = (slots d).map Fin.val
  length_slots : ∀ d, (slots d).length = layout.width
  read_slots : ∀ part d rest, layout.read part (slots d ++ rest) = .ok (d, rest)

/-- A limb as a field element. -/
def limbSlot (limb : Limb) : Felt := ⟨limb.val, Nat.lt_trans limb.isLt (by decide)⟩

/-- The slots of a wide digest. -/
def wideSlots (d : WideDigest) : List Felt := [limbSlot d.high, limbSlot d.low]

/-- The slot of a compact digest. -/
def compactSlots (d : CompactDigest) : List Felt := [d.value]

theorem limb?_limbSlot (part : Part) (limb : Limb) : limb? part (limbSlot limb) = .ok limb := by
  have hlt : (limbSlot limb).val < limbBound := limb.isLt
  rw [limb?, dif_pos hlt]
  rfl

theorem wideLayout_lawful : wideLayout.Lawful wideSlots where
  write_eq _ := rfl
  length_slots _ := rfl
  read_slots part d rest := by
    simp only [wideLayout, wideSlots, List.cons_append, List.nil_append, limb?_limbSlot]
    rfl

theorem compactLayout_lawful : compactLayout.Lawful compactSlots where
  write_eq _ := rfl
  length_slots _ := rfl
  read_slots _ _ _ := rfl

/-! ## Numbers and lists -/

/-- A small number as a field element. -/
def countSlot (n : Nat) : Felt := Fin.ofNat fieldPrime n

theorem val_countSlot {n : Nat} (h : n < fieldPrime) : (countSlot n).val = n :=
  Nat.mod_eq_of_lt h

theorem readWord_ofWord (name : String) (n : UInt64) (rest : List Felt) :
    readWord name (Felt.ofWord n :: rest) = .ok (n, rest) := by
  have hval : (Felt.ofWord n).val = n.toNat := rfl
  rw [readWord, hval, if_pos n.toNat_lt, UInt64.ofNat_toNat]

theorem limit_lt_fieldPrime (counted : Counted) : counted.limit < fieldPrime := by
  cases counted <;> decide

theorem readCount_countSlot (counted : Counted) {n : Nat} (h : n ≤ counted.limit)
    (rest : List Felt) : readCount counted (countSlot n :: rest) = .ok (n, rest) := by
  have hval : (countSlot n).val = n :=
    val_countSlot (Nat.lt_of_le_of_lt h (limit_lt_fieldPrime counted))
  rw [readCount, hval, if_pos h]

variable {D : Type} {layout : Layout D} {slots : D → List Felt}

theorem readDigests_slots (law : layout.Lawful slots) (part : Nat → Part) (i : Nat)
    (digests : List D) (rest : List Felt) :
    readDigests layout part i digests.length (digests.flatMap slots ++ rest) =
      .ok (digests, rest) := by
  induction digests generalizing i with
  | nil => rfl
  | cons d digests ih =>
      rw [List.flatMap_cons, List.append_assoc, List.length_cons, readDigests, law.read_slots]
      simp only [bind, Except.bind, ih]
      rfl

theorem length_flatMap_slots (law : layout.Lawful slots) (digests : List D) :
    (digests.flatMap slots).length = digests.length * layout.width := by
  induction digests with
  | nil => simp
  | cons d digests ih =>
      rw [List.flatMap_cons, List.length_append, law.length_slots, ih, List.length_cons,
        Nat.succ_mul, Nat.add_comm]

/-! ## Proofs -/

/-- The slots of a proof behind the mode. -/
def proofSlots (slots : D → List Felt) (proof : Inclusion D) : List Felt :=
  slots proof.root ++ (slots proof.leaf ++
    (Felt.ofWord proof.leafIndex :: Felt.ofWord proof.size ::
      countSlot proof.siblings.length :: (proof.siblings.flatMap slots ++
        countSlot proof.peaks.length :: proof.peaks.flatMap slots)))

theorem encodeProof_eq (law : layout.Lawful slots) {proof : Inclusion D}
    (hs : proof.siblings.length ≤ maxSiblings) (hp : proof.peaks.length ≤ maxPeaks) :
    encodeProof layout proof =
      layout.mode.number :: (proofSlots slots proof).map Fin.val := by
  have hsiblings : (countSlot proof.siblings.length).val = proof.siblings.length :=
    val_countSlot (Nat.lt_of_le_of_lt hs (limit_lt_fieldPrime .siblings))
  have hpeaks : (countSlot proof.peaks.length).val = proof.peaks.length :=
    val_countSlot (Nat.lt_of_le_of_lt hp (limit_lt_fieldPrime .peaks))
  have hwrite : layout.write = fun d => (slots d).map Fin.val := funext law.write_eq
  simp [encodeProof, proofSlots, hwrite, List.map_flatMap, hsiblings, hpeaks, Felt.ofWord]

theorem decodeProof_proofSlots (law : layout.Lawful slots) {proof : Inclusion D}
    (hs : proof.siblings.length ≤ maxSiblings) (hp : proof.peaks.length ≤ maxPeaks) :
    decodeProof layout (proofSlots slots proof) = .ok proof := by
  have hsiblings := readCount_countSlot .siblings hs
  have hpeaks := readCount_countSlot .peaks hp
  have hroom : ¬(proof.siblings.flatMap slots ++
      countSlot proof.peaks.length :: proof.peaks.flatMap slots).length <
      proof.siblings.length * layout.width + 1 := by
    rw [List.length_append, List.length_cons, length_flatMap_slots law]
    omega
  have hexact : ¬(proof.peaks.flatMap slots).length ≠ proof.peaks.length * layout.width :=
    fun hne => hne (length_flatMap_slots law proof.peaks)
  have hlast := readDigests_slots law .peak 0 proof.peaks []
  rw [List.append_nil] at hlast
  unfold decodeProof proofSlots
  simp only [law.read_slots, readWord_ofWord, hsiblings, hpeaks, readDigests_slots law,
    bind, Except.bind]
  rw [if_neg hroom, if_neg hexact, hlast]
  rfl

theorem decodeUnder_proofSlots (law : layout.Lawful slots) {proof : Inclusion D}
    (hs : proof.siblings.length ≤ maxSiblings) (hp : proof.peaks.length ≤ maxPeaks) :
    decodeUnder layout (proofSlots slots proof) = .ok proof := by
  have henough : ¬(((proofSlots slots proof).length : Int) + 1 < minimumLength layout.width) := by
    simp only [proofSlots, minimumLength, headerLength, List.length_append, List.length_cons,
      law.length_slots]
    omega
  exact (if_neg henough).trans (decodeProof_proofSlots law hs hp)

/-! ## Requests -/

/-- No list of a request is longer than a sequence may hold. -/
structure Fits (r : Request) : Prop where
  siblings_le : r.siblings.length ≤ maxSiblings
  peaks_le : r.peaks.length ≤ maxPeaks

theorem fits_wide {proof : Inclusion WideDigest} (h : Fits (.wide proof)) :
    proof.siblings.length ≤ maxSiblings ∧ proof.peaks.length ≤ maxPeaks := by
  obtain ⟨hs, hp⟩ := h
  rw [Request.siblings, List.length_map] at hs
  rw [Request.peaks, List.length_map] at hp
  exact ⟨hs, hp⟩

theorem fits_compact {proof : Inclusion CompactDigest} (h : Fits (.compact proof)) :
    proof.siblings.length ≤ maxSiblings ∧ proof.peaks.length ≤ maxPeaks := by
  obtain ⟨hs, hp⟩ := h
  rw [Request.siblings, List.length_map] at hs
  rw [Request.peaks, List.length_map] at hp
  exact ⟨hs, hp⟩

/-- Field elements pass the check of slots as they are. -/
theorem slots?_felts (position : Nat) (felts : List Felt) :
    slots? position (felts.map fun x => .int (x.val : Nat)) = .ok felts := by
  induction felts generalizing position with
  | nil => rfl
  | cons x felts ih =>
      have hx : Felt.ofInt? (x.val : Nat) = some x :=
        (Number.below?_eq_some_iff fieldPrime _ x).mpr rfl
      have hslot : slot? position (.int (x.val : Nat)) = .ok x := by rw [slot?, hx]
      rw [List.map_cons, slots?, hslot]
      simp only [ih, bind, Except.bind]
      rfl

/-- The slots of a request, as field elements. -/
def requestSlots : Request → List Felt
  | .wide proof => countSlot wideLayout.mode.number :: proofSlots wideSlots proof
  | .compact proof => countSlot compactLayout.mode.number :: proofSlots compactSlots proof

theorem encode_eq {r : Request} (h : Fits r) : encode r = (requestSlots r).map Fin.val := by
  cases r with
  | wide proof =>
      obtain ⟨hs, hp⟩ := fits_wide h
      rw [encode, encodeProof_eq wideLayout_lawful hs hp]
      rfl
  | compact proof =>
      obtain ⟨hs, hp⟩ := fits_compact h
      rw [encode, encodeProof_eq compactLayout_lawful hs hp]
      rfl

theorem decodeSlots_requestSlots {r : Request} (h : Fits r) :
    decodeSlots (requestSlots r) = .ok r := by
  cases r with
  | wide proof =>
      obtain ⟨hs, hp⟩ := fits_wide h
      have hproof := decodeUnder_proofSlots wideLayout_lawful hs hp
      have hmode : Mode.ofNumber? (countSlot wideLayout.mode.number).val = some .wide := by decide
      rw [requestSlots, decodeSlots, hmode]
      simp only [hproof]
      rfl
  | compact proof =>
      obtain ⟨hs, hp⟩ := fits_compact h
      have hproof := decodeUnder_proofSlots compactLayout_lawful hs hp
      have hmode : Mode.ofNumber? (countSlot compactLayout.mode.number).val = some .compact := by
        decide
      rw [requestSlots, decodeSlots, hmode]
      simp only [hproof]
      rfl

/-- A request that fits is read back from its slots. -/
theorem decode_encodeValues_of_fits {r : Request} (h : Fits r) :
    decode (encodeValues r) = .ok r := by
  rw [encodeValues, encode_eq h, List.map_map, decode]
  have hslots := slots?_felts 0 (requestSlots r)
  simp only [Function.comp_def, hslots, bind, Except.bind, decodeSlots_requestSlots h]
  rfl

end MountainRange.Encoding
