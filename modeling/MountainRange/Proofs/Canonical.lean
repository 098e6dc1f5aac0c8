import MountainRange.Proofs.RoundTrip
import MountainRange.Proofs.Steps
import MountainRange.Proofs.Totality
set_option autoImplicit false

/-!
# Each request has one sequence

What the decoder accepts is the encoding of the request it returns, slot for slot.  Each
part is read from the slots it is written to and from no others, so nothing is skipped,
cut or read twice, and the whole follows by reading the parts one after the other.
-/

namespace MountainRange

namespace Encoding

/-! ## Parts -/

/-- A layout reads a digest from the slots that it writes it to, and leaves the rest. -/
structure Layout.Exact {D : Type} (layout : Layout D) (slots : D → List Felt) : Prop
    extends layout.Lawful slots where
  eq_of_read : ∀ part xs d rest, layout.read part xs = .ok (d, rest) → xs = slots d ++ rest

theorem limbSlot_of_limb? {part : Part} {slot : Felt} {limb : Limb}
    (h : limb? part slot = .ok limb) : limbSlot limb = slot := by
  unfold limb? at h
  split at h
  · cases h
    rfl
  · cases h

theorem wideLayout_exact : wideLayout.Exact wideSlots where
  toLawful := wideLayout_lawful
  eq_of_read part xs d rest h := by
    rcases xs with _ | ⟨high, _ | ⟨low, xs⟩⟩
    · cases h
    · cases h
    · obtain ⟨highLimb, hhigh, h⟩ := bind_eq_ok_iff.mp h
      obtain ⟨lowLimb, hlow, h⟩ := bind_eq_ok_iff.mp h
      cases h
      show high :: low :: rest = limbSlot highLimb :: limbSlot lowLimb :: rest
      rw [limbSlot_of_limb? hhigh, limbSlot_of_limb? hlow]

theorem compactLayout_exact : compactLayout.Exact compactSlots where
  toLawful := compactLayout_lawful
  eq_of_read part xs d rest h := by
    rcases xs with _ | ⟨value, xs⟩
    · cases h
    · cases h
      rfl

theorem readWord_eq_ok {name : String} {xs rest : List Felt} {n : UInt64}
    (h : readWord name xs = .ok (n, rest)) : xs = Felt.ofWord n :: rest := by
  rcases xs with _ | ⟨slot, xs⟩
  · cases h
  · rw [readWord] at h
    split at h
    · next hlt =>
        cases h
        have hslot : Felt.ofWord (UInt64.ofNat slot.val) = slot :=
          Fin.ext (UInt64.toNat_ofNat_of_lt hlt)
        rw [hslot]
    · cases h

theorem readCount_eq_ok {counted : Counted} {xs rest : List Felt} {n : Nat}
    (h : readCount counted xs = .ok (n, rest)) :
    n ≤ counted.limit ∧ xs = countSlot n :: rest := by
  rcases xs with _ | ⟨slot, xs⟩
  · cases h
  · rw [readCount] at h
    split at h
    · next hle =>
        cases h
        have hslot : countSlot slot.val = slot := Fin.ext (val_countSlot slot.isLt)
        exact ⟨hle, by rw [hslot]⟩
    · cases h

variable {D : Type} {layout : Layout D} {slots : D → List Felt}

/-- Digests are read from the slots that they are written to, as many as asked for. -/
theorem readDigests_eq_ok (exact : layout.Exact slots) {part : Nat → Part} {i count : Nat}
    {xs rest : List Felt} {digests : List D}
    (h : readDigests layout part i count xs = .ok (digests, rest)) :
    digests.length = count ∧ xs = digests.flatMap slots ++ rest := by
  induction count generalizing i xs digests with
  | zero =>
      cases h
      exact ⟨rfl, rfl⟩
  | succ count ih =>
      obtain ⟨⟨d, afterFirst⟩, hread, h⟩ := bind_eq_ok_iff.mp h
      obtain ⟨⟨others, afterAll⟩, hothers, h⟩ := bind_eq_ok_iff.mp h
      cases h
      obtain ⟨hlength, hrest⟩ := ih hothers
      refine ⟨by rw [List.length_cons, hlength], ?_⟩
      rw [exact.eq_of_read _ _ _ _ hread, hrest, List.flatMap_cons, List.append_assoc]

/-- Digests that are all there is leave nothing. -/
theorem readDigests_eq_ok_of_length (exact : layout.Exact slots) {part : Nat → Part}
    {i count : Nat} {xs rest : List Felt} {digests : List D}
    (hlength : xs.length = count * layout.width)
    (h : readDigests layout part i count xs = .ok (digests, rest)) :
    digests.length = count ∧ xs = digests.flatMap slots := by
  obtain ⟨hcount, hxs⟩ := readDigests_eq_ok exact h
  have hrest : rest = [] := by
    rw [hxs, List.length_append, length_flatMap_slots exact.toLawful, hcount] at hlength
    exact List.length_eq_zero_iff.mp (by omega)
  exact ⟨hcount, by rw [hxs, hrest, List.append_nil]⟩

/-! ## Proofs -/

/-- What is decoded behind the mode are the slots of the proof that comes out, and no list
of it is longer than a sequence may hold. -/
theorem decodeProof_eq_ok (exact : layout.Exact slots) {xs : List Felt} {proof : Inclusion D}
    (h : decodeProof layout xs = .ok proof) :
    proof.siblings.length ≤ maxSiblings ∧ proof.peaks.length ≤ maxPeaks ∧
      xs = proofSlots slots proof := by
  unfold decodeProof at h
  obtain ⟨⟨root, afterRoot⟩, hroot, h⟩ := bind_eq_ok_iff.mp h
  obtain ⟨⟨leaf, afterLeaf⟩, hleaf, h⟩ := bind_eq_ok_iff.mp h
  obtain ⟨⟨leafIndex, afterIndex⟩, hindex, h⟩ := bind_eq_ok_iff.mp h
  obtain ⟨⟨size, afterSize⟩, hsize, h⟩ := bind_eq_ok_iff.mp h
  obtain ⟨⟨siblingCount, afterCount⟩, hcount, h⟩ := bind_eq_ok_iff.mp h
  dsimp only at h
  split at h
  · cases h
  obtain ⟨⟨siblings, afterSiblings⟩, hsiblings, h⟩ := bind_eq_ok_iff.mp h
  obtain ⟨⟨peakCount, afterPeakCount⟩, hpeakCount, h⟩ := bind_eq_ok_iff.mp h
  dsimp only at h
  split at h
  · cases h
  next hexact =>
    obtain ⟨⟨peaks, afterPeaks⟩, hpeaks, h⟩ := bind_eq_ok_iff.mp h
    cases h
    obtain ⟨hsiblingsLe, rfl⟩ := readCount_eq_ok hcount
    obtain ⟨rfl, rfl⟩ := readDigests_eq_ok exact hsiblings
    obtain ⟨hpeaksLe, rfl⟩ := readCount_eq_ok hpeakCount
    obtain ⟨rfl, rfl⟩ := readDigests_eq_ok_of_length exact (Classical.not_not.mp hexact) hpeaks
    refine ⟨hsiblingsLe, hpeaksLe, ?_⟩
    rw [exact.eq_of_read _ _ _ _ hroot, exact.eq_of_read _ _ _ _ hleaf, readWord_eq_ok hindex,
      readWord_eq_ok hsize]
    rfl

theorem decodeUnder_eq_ok (exact : layout.Exact slots) {xs : List Felt} {proof : Inclusion D}
    (h : decodeUnder layout xs = .ok proof) :
    proof.siblings.length ≤ maxSiblings ∧ proof.peaks.length ≤ maxPeaks ∧
      xs = proofSlots slots proof := by
  unfold decodeUnder at h
  dsimp only at h
  split at h
  · cases h
  · exact decodeProof_eq_ok exact h

end Encoding

/-! ## Requests by their mode -/

namespace Mode

open Encoding

/-- How the digests of a mode stand in slots. -/
def layout : (mode : Mode) → Layout mode.Form
  | .wide => wideLayout
  | .compact => compactLayout

/-- The slots of a digest of a mode. -/
def digestSlots : (mode : Mode) → mode.Form → List Felt
  | .wide => wideSlots
  | .compact => compactSlots

theorem layout_exact (mode : Mode) : mode.layout.Exact mode.digestSlots := by
  cases mode with
  | wide => exact wideLayout_exact
  | compact => exact compactLayout_exact

variable {mode : Mode} {proof : Inclusion mode.Form}

theorem encode_request : encode (mode.request proof) = encodeProof mode.layout proof := by
  cases mode <;> rfl

theorem requestSlots_request : requestSlots (mode.request proof) =
    countSlot mode.number :: proofSlots mode.digestSlots proof := by
  cases mode <;> rfl

theorem fits_request_iff : Fits (mode.request proof) ↔
    proof.siblings.length ≤ maxSiblings ∧ proof.peaks.length ≤ maxPeaks := by
  rw [← mode.length_siblings_request proof, ← mode.length_peaks_request proof]
  exact ⟨fun h => ⟨h.siblings_le, h.peaks_le⟩, fun h => ⟨h.1, h.2⟩⟩

theorem number_of_ofNumber? {n : Int} (h : ofNumber? n = some mode) : mode.number = n := by
  unfold ofNumber? at h
  simpa using List.find?_some h

end Mode

namespace Encoding

/-- A sequence is decoded under the layout of the mode in its first slot. -/
theorem decodeSlots_eq_ok {felts : List Felt} {r : Request} (h : decodeSlots felts = .ok r) :
    Fits r ∧ felts = requestSlots r := by
  rcases felts with _ | ⟨slot, rest⟩
  · cases h
  have hunder : ∃ (mode : Mode) (proof : Inclusion mode.Form),
      Mode.ofNumber? slot.val = some mode ∧ decodeUnder (mode.layout) rest = .ok proof ∧
        mode.request proof = r := by
    rw [decodeSlots] at h
    split at h
    · cases h
    · next hmode =>
        obtain ⟨proof, hproof, hr⟩ := map_eq_ok h
        exact ⟨.wide, proof, hmode, hproof, hr⟩
    · next hmode =>
        obtain ⟨proof, hproof, hr⟩ := map_eq_ok h
        exact ⟨.compact, proof, hmode, hproof, hr⟩
  obtain ⟨mode, proof, hmode, hproof, rfl⟩ := hunder
  obtain ⟨hsiblings, hpeaks, hrest⟩ := decodeUnder_eq_ok mode.layout_exact hproof
  have hslot : slot = countSlot mode.number := by
    have hnumber := Int.ofNat_inj.mp (Mode.number_of_ofNumber? hmode)
    rw [hnumber]
    exact (Fin.ext (val_countSlot slot.isLt)).symm
  refine ⟨Mode.fits_request_iff.mpr ⟨hsiblings, hpeaks⟩, ?_⟩
  rw [Mode.requestSlots_request, hslot, hrest]

/-! ## Sequences of values -/

/-- The slots that pass the check are integers, taken as they are. -/
theorem slots?_eq_ok {position : Nat} {items : List Value} {felts : List Felt}
    (h : slots? position items = .ok felts) :
    items = felts.map fun x => .int (x.val : Nat) := by
  induction items generalizing position felts with
  | nil =>
      cases h
      rfl
  | cons v items ih =>
      obtain ⟨x, hslot, h⟩ := bind_eq_ok_iff.mp h
      obtain ⟨others, hothers, h⟩ := bind_eq_ok_iff.mp h
      cases h
      have hv : v = .int (x.val : Nat) := by
        unfold slot? at hslot
        split at hslot
        · split at hslot
          · next hfelt =>
              cases hslot
              rw [(Number.below?_eq_some_iff fieldPrime _ _).mp hfelt]
          · cases hslot
        · cases hslot
      rw [List.map_cons, ← hv, ← ih hothers]

/-- A sequence is decoded to a request exactly if the request fits and the sequence is what
the request is encoded to. -/
theorem decode_eq_ok_iff {raw : List Value} {r : Request} :
    decode raw = .ok r ↔ Fits r ∧ encodeValues r = raw := by
  constructor
  · intro h
    obtain ⟨felts, hfelts, h⟩ := bind_eq_ok_iff.mp h
    obtain ⟨hfits, hslots⟩ := decodeSlots_eq_ok (mapError_eq_ok h)
    refine ⟨hfits, ?_⟩
    rw [slots?_eq_ok hfelts, hslots, encodeValues, encode_eq hfits, List.map_map]
    rfl
  · rintro ⟨hfits, rfl⟩
    exact decode_encodeValues_of_fits hfits

/-- A sequence that is decoded is what its request is encoded to, slot for slot, and no
other sequence is decoded to the same request. -/
theorem encodeValues_of_decode {raw : List Value} {r : Request} (h : decode raw = .ok r) :
    encodeValues r = raw ∧ ∀ other, decode other = .ok r → other = raw := by
  have hraw := (decode_eq_ok_iff.mp h).2
  refine ⟨hraw, ?_⟩
  intro other hother
  rw [← (decode_eq_ok_iff.mp hother).2, hraw]

/-- The sequence of a wide request with one sibling and one peak, whose root and numbers
are as large as they can be. -/
theorem encodeValues_of_decode_largest_numbers :
    let limb : Limb := 340282366920938463463374607431768211455
    let word : UInt64 := 18446744073709551615
    let raw : List Value := [.int 1, .int 340282366920938463463374607431768211455,
      .int 340282366920938463463374607431768211455, .int 0, .int 7, .int 18446744073709551615,
      .int 18446744073709551615, .int 1, .int 3, .int 4, .int 1, .int 5, .int 6]
    let r : Request := .wide ⟨⟨limb, limb⟩, ⟨0, 7⟩, word, word, [⟨3, 4⟩], [⟨5, 6⟩]⟩
    decode raw = .ok r ∧ encodeValues r = raw ∧
      ∀ other, decode other = .ok r → other = raw := by
  intro limb word raw r
  have hfits : Fits r := ⟨by decide, by decide⟩
  have hdecode : decode raw = .ok r := decode_eq_ok_iff.mpr ⟨hfits, rfl⟩
  exact ⟨hdecode, encodeValues_of_decode hdecode⟩

end Encoding

end MountainRange
