import MountainRange.Proofs.Canonical
set_option autoImplicit false

/-!
# Where the parts of a request stand

The place of every part in the slots of a request follows from the width of its digests
and the number of its siblings: behind the mode the root and the leaf, three numbers, the
siblings, one more number and the peaks, and then nothing.  That holds of every request,
also of one with more siblings or peaks than a sequence may hold, and such a request is
told by its counts: it is encoded to slots that are refused.
-/

namespace MountainRange

namespace Encoding

/-! ## Places in a list -/

section Places

variable {α : Type} {l front middle back : List α} {x : α} {i : Nat}

theorem getElem?_of_append_cons (hl : l = front ++ x :: back) (hi : front.length = i) :
    l[i]? = some x := by
  subst hl hi
  simp

theorem mem_of_append_append (hl : l = front ++ (middle ++ back)) (hfront : front.length ≤ i)
    (hi : i < front.length + middle.length) (hx : l[i]? = some x) : x ∈ middle := by
  rw [hl, List.getElem?_append_right hfront, List.getElem?_append_left (by omega)] at hx
  exact List.mem_of_getElem? hx

theorem getElem?_of_prefix {l' : List α} (h : l <+: l') (hx : l[i]? = some x) :
    l'[i]? = some x := by
  obtain ⟨hi, rfl⟩ := List.getElem?_eq_some_iff.mp hx
  exact List.prefix_iff_getElem?.mp h i hi

end Places

/-! ## Slots of a proof -/

variable {D : Type} {layout : Layout D} {slots : D → List Felt}

theorem Layout.Lawful.length_write (law : layout.Lawful slots) (d : D) :
    (layout.write d).length = layout.width := by
  rw [law.write_eq, List.length_map, law.length_slots]

theorem Layout.Lawful.length_flatMap_write (law : layout.Lawful slots) (digests : List D) :
    (digests.flatMap layout.write).length = digests.length * layout.width := by
  have hwrite : layout.write = fun d => (slots d).map Fin.val := funext law.write_eq
  rw [hwrite, ← List.map_flatMap, List.length_map, length_flatMap_slots law]

/-- The mode, the root and the leaf. -/
def headSlots (layout : Layout D) (proof : Inclusion D) : List Nat :=
  layout.mode.number :: (layout.write proof.root ++ layout.write proof.leaf)

/-- What stands in front of the number of peaks. -/
def slotsToPeaks (layout : Layout D) (proof : Inclusion D) : List Nat :=
  headSlots layout proof ++ [proof.leafIndex.toNat, proof.size.toNat, proof.siblings.length] ++
    proof.siblings.flatMap layout.write

variable (law : layout.Lawful slots) (proof : Inclusion D)

theorem encodeProof_eq_headSlots : encodeProof layout proof =
    headSlots layout proof ++
      ([proof.leafIndex.toNat, proof.size.toNat, proof.siblings.length] ++
        (proof.siblings.flatMap layout.write ++
          proof.peaks.length :: proof.peaks.flatMap layout.write)) := by
  simp [encodeProof, headSlots]

theorem encodeProof_eq_slotsToPeaks : encodeProof layout proof =
    slotsToPeaks layout proof ++ proof.peaks.length :: proof.peaks.flatMap layout.write := rfl

theorem slot_mode : (encodeProof layout proof)[0]? = some layout.mode.number := rfl

include law

theorem length_headSlots : (headSlots layout proof).length = 2 * layout.width + 1 := by
  simp only [headSlots, List.length_cons, List.length_append, law.length_write, Nat.two_mul]

theorem length_slotsToPeaks : (slotsToPeaks layout proof).length =
    2 * layout.width + 4 + proof.siblings.length * layout.width := by
  simp only [slotsToPeaks, List.length_append, length_headSlots law, law.length_flatMap_write,
    List.length_cons, List.length_nil]

theorem length_encodeProof : (encodeProof layout proof).length =
    2 * layout.width + 5 + (proof.siblings.length + proof.peaks.length) * layout.width := by
  simp only [encodeProof_eq_slotsToPeaks, List.length_append, List.length_cons,
    length_slotsToPeaks law, law.length_flatMap_write, Nat.add_mul]
  omega

/-- The three numbers stand behind the leaf. -/
theorem slot_behind_head (i : Nat) : (encodeProof layout proof)[2 * layout.width + 1 + i]? =
    ([proof.leafIndex.toNat, proof.size.toNat, proof.siblings.length] ++
      (proof.siblings.flatMap layout.write ++
        proof.peaks.length :: proof.peaks.flatMap layout.write))[i]? := by
  rw [encodeProof_eq_headSlots, ← length_headSlots law proof,
    List.getElem?_append_right (Nat.le_add_right _ _), Nat.add_sub_cancel_left]

theorem slot_leafIndex : (encodeProof layout proof)[2 * layout.width + 1]? =
    some proof.leafIndex.toNat := slot_behind_head law proof 0

theorem slot_size : (encodeProof layout proof)[2 * layout.width + 2]? =
    some proof.size.toNat := slot_behind_head law proof 1

theorem slot_siblings : (encodeProof layout proof)[2 * layout.width + 3]? =
    some proof.siblings.length := slot_behind_head law proof 2

theorem slot_peaks :
    (encodeProof layout proof)[2 * layout.width + 4 + proof.siblings.length * layout.width]? =
      some proof.peaks.length :=
  getElem?_of_append_cons (encodeProof_eq_slotsToPeaks proof) (length_slotsToPeaks law proof)

/-- A slot holds part of a digest, a number of 64 bits or a count. -/
theorem mem_encodeProof {n : Nat} (h : n ∈ encodeProof layout proof) :
    n < fieldPrime ∨ n = proof.siblings.length ∨ n = proof.peaks.length := by
  have hdigest : ∀ d, n ∈ layout.write d → n < fieldPrime := by
    intro d hn
    rw [law.write_eq, List.mem_map] at hn
    obtain ⟨x, -, rfl⟩ := hn
    exact x.isLt
  have hword : ∀ w : UInt64, n = w.toNat → n < fieldPrime := by
    rintro w rfl
    exact (Felt.ofWord w).isLt
  have hmode : n = layout.mode.number → n < fieldPrime := by
    rintro rfl
    cases layout.mode <;> decide
  simp only [encodeProof, List.mem_append, List.mem_cons, List.mem_flatMap, List.not_mem_nil,
    or_false] at h
  rcases h with ((((h | h) | h) | h | h | h) | ⟨d, -, h⟩) | h | ⟨d, -, h⟩
  · exact .inl (hmode h)
  · exact .inl (hdigest _ h)
  · exact .inl (hdigest _ h)
  · exact .inl (hword _ h)
  · exact .inl (hword _ h)
  · exact .inr (.inl h)
  · exact .inl (hdigest d h)
  · exact .inr (.inr h)
  · exact .inl (hdigest d h)

end Encoding

/-! ## Counts -/

theorem Mode.number_injective : Function.Injective Mode.number := by
  intro m m' h
  cases m <;> cases m' <;> first | rfl | cases h

theorem Mode.mode_layout (mode : Mode) : mode.layout.mode = mode := by
  cases mode <;> rfl

namespace Encoding

/-- The mode and the counts of a proof stand in its slots, and where each stands only depends
on the ones in front of it.  So slots that start like those of a proof have the same. -/
theorem counts_eq_of_prefix {mode mode' : Mode} {p : Inclusion mode.Form}
    {q : Inclusion mode'.Form} (h : encodeProof mode.layout p <+: encodeProof mode'.layout q) :
    mode = mode' ∧ p.siblings.length = q.siblings.length ∧ p.peaks.length = q.peaks.length := by
  have hnumber : mode.number = mode'.number := by
    have hmode := getElem?_of_prefix h (slot_mode p)
    rw [slot_mode, mode.mode_layout, mode'.mode_layout] at hmode
    exact (Option.some.inj hmode).symm
  obtain rfl := Mode.number_injective hnumber
  have law := mode.layout_exact.toLawful
  have hsiblings : p.siblings.length = q.siblings.length := by
    have hslot := getElem?_of_prefix h (slot_siblings law p)
    rw [slot_siblings law q] at hslot
    exact (Option.some.inj hslot).symm
  have hpeaks : p.peaks.length = q.peaks.length := by
    have hslot := getElem?_of_prefix h (slot_peaks law p)
    rw [hsiblings, slot_peaks law q] at hslot
    exact (Option.some.inj hslot).symm
  exact ⟨rfl, hsiblings, hpeaks⟩

/-! ## Requests that do not fit -/

theorem fits_of_encode_eq {r s : Request} (h : encode r = encode s) (hs : Fits s) : Fits r := by
  obtain ⟨mode, p, rfl⟩ := r.exists_request
  obtain ⟨mode', q, rfl⟩ := s.exists_request
  rw [Mode.encode_request, Mode.encode_request] at h
  have hprefix : encodeProof mode.layout p <+: encodeProof mode'.layout q :=
    h ▸ List.prefix_rfl
  obtain ⟨rfl, hsiblings, hpeaks⟩ := counts_eq_of_prefix hprefix
  rw [Mode.fits_request_iff] at hs ⊢
  rw [hsiblings, hpeaks]
  exact hs

theorem encode_eq_of_encodeValues_eq {r s : Request} (h : encodeValues r = encodeValues s) :
    encode r = encode s := by
  refine List.map_inj_right ?_ |>.mp h
  intro n n' hn
  exact Int.ofNat_inj.mp (Value.int.inj hn)

/-- A request that does not fit is encoded to slots that are refused. -/
theorem decode_encodeValues_refused {r : Request} (h : ¬Fits r) :
    ∃ refusal, decode (encodeValues r) = .error refusal := by
  cases hdecode : decode (encodeValues r) with
  | error refusal => exact ⟨refusal, rfl⟩
  | ok s =>
      obtain ⟨hs, hencode⟩ := decode_eq_ok_iff.mp hdecode
      exact absurd (fits_of_encode_eq (encode_eq_of_encodeValues_eq hencode.symm) hs) h

/-! ## What a refusal says -/

theorem slots?_eq_error {position : Nat} {items : List Value} {refusal : Refusal}
    (hwritable : ∀ n : Int, .int n ∈ items → (Text.Numeral.write? n).isSome = true)
    (h : slots? position items = .error refusal) : ∃ error, refusal = .malformed error := by
  induction items generalizing position with
  | nil => cases h
  | cons v items ih =>
      have hrest : ∀ n : Int, .int n ∈ items → (Text.Numeral.write? n).isSome = true :=
        fun n hn => hwritable n (List.mem_cons_of_mem _ hn)
      rcases bind_eq_error h with hslot | ⟨x, -, h⟩
      · unfold slot? at hslot
        split at hslot
        · next n =>
            split at hslot
            · cases hslot
            · rw [if_pos (hwritable n List.mem_cons_self)] at hslot
              cases hslot
              exact ⟨_, rfl⟩
        · cases hslot
          exact ⟨_, rfl⟩
      · rcases bind_eq_error h with hslots | ⟨others, -, h⟩
        · exact ih hrest hslots
        · cases h

/-- A sequence whose integers can be written is refused as malformed, if it is refused. -/
theorem decode_eq_error {items : List Value} {refusal : Refusal}
    (hwritable : ∀ n : Int, .int n ∈ items → (Text.Numeral.write? n).isSome = true)
    (h : decode items = .error refusal) : ∃ error, refusal = .malformed error := by
  rcases bind_eq_error h with hslots | ⟨felts, -, h⟩
  · exact slots?_eq_error hwritable hslots
  · cases hdecode : decodeSlots felts with
    | error error =>
        rw [hdecode] at h
        cases h
        exact ⟨error, rfl⟩
    | ok r =>
        rw [hdecode] at h
        cases h

theorem fieldPrime_lt_pow_maxDigits : fieldPrime < 10 ^ Text.Numeral.maxDigits :=
  calc fieldPrime < 10 ^ 100 := by decide
    _ ≤ 10 ^ Text.Numeral.maxDigits := Nat.pow_le_pow_right (by decide) (by decide)

theorem write?_isSome {n : Nat} (h : n < 10 ^ Text.Numeral.maxDigits) :
    (Text.Numeral.write? n).isSome = true := by
  unfold Text.Numeral.write?
  generalize Text.Numeral.maxDigits = digits at h ⊢
  have hlt : (n : Int).natAbs < Nat.pow 10 digits := h
  rw [if_pos hlt, Option.isSome_some]

/-- A request is read back from its slots exactly if it fits.  One that does not fit is
refused, and as malformed: only a count of more than 4300 digits could not be named, and
no list has that many entries. -/
theorem decode_encodeValues (r : Request) :
    (Fits r → decode (encodeValues r) = .ok r) ∧
      (¬Fits r → ∃ refusal, decode (encodeValues r) = .error refusal ∧
        (r.siblings.length < 10 ^ Text.Numeral.maxDigits →
          r.peaks.length < 10 ^ Text.Numeral.maxDigits →
          ∃ error, refusal = .malformed error)) := by
  refine ⟨decode_encodeValues_of_fits, ?_⟩
  intro hfits
  obtain ⟨refusal, hrefused⟩ := decode_encodeValues_refused hfits
  refine ⟨refusal, hrefused, ?_⟩
  intro hsiblings hpeaks
  apply decode_eq_error _ hrefused
  intro n hn
  obtain ⟨k, hk, hvalue⟩ := List.mem_map.mp hn
  obtain rfl := Value.int.inj hvalue
  apply write?_isSome
  obtain ⟨mode, proof, rfl⟩ := r.exists_request
  rw [mode.length_siblings_request] at hsiblings
  rw [mode.length_peaks_request] at hpeaks
  rw [Mode.encode_request] at hk
  rcases mem_encodeProof mode.layout_exact.toLawful proof hk with h | rfl | rfl
  · exact Nat.lt_trans h fieldPrime_lt_pow_maxDigits
  · exact hsiblings
  · exact hpeaks

end Encoding

end MountainRange
