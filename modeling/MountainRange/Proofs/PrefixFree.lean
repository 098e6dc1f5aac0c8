import MountainRange.Proofs.Slots
set_option autoImplicit false

/-!
# Where a request ends

The end of a request is not marked: it follows from the two counts among its slots.  These
stand in the same places in whatever the slots are continued with, so no request is continued
to another one, and a sequence that is decoded is refused as soon as slots are added behind it
or cut from its end.
-/

namespace MountainRange.Encoding

/-- The slots of one request are no proper start of those of another. -/
theorem encode_eq_of_prefix {r s : Request} (h : encode r <+: encode s) :
    encode r = encode s := by
  obtain ⟨mode, p, rfl⟩ := r.exists_request
  obtain ⟨mode', q, rfl⟩ := s.exists_request
  rw [Mode.encode_request, Mode.encode_request] at h ⊢
  obtain ⟨rfl, hsiblings, hpeaks⟩ := counts_eq_of_prefix h
  have law := mode.layout_exact.toLawful
  have hlength : (encodeProof mode.layout p).length = (encodeProof mode.layout q).length := by
    rw [length_encodeProof law, length_encodeProof law, hsiblings, hpeaks]
  exact h.eq_of_length hlength

variable {raw raw' : List Value} {r s : Request}

/-- Of two sequences that are decoded none is a proper start of the other. -/
theorem eq_of_prefix_of_decode (hr : decode raw = .ok r) (hs : decode raw' = .ok s)
    (h : raw <+: raw') : raw = raw' := by
  obtain ⟨-, rfl⟩ := decode_eq_ok_iff.mp hr
  obtain ⟨-, rfl⟩ := decode_eq_ok_iff.mp hs
  have hinjective : Function.Injective fun n : Nat => Value.int n :=
    fun _ _ heq => Int.ofNat_inj.mp (Value.int.inj heq)
  have hslots : encode r <+: encode s := (List.prefix_map_iff_of_injective hinjective).mp h
  rw [encodeValues, encodeValues, encode_eq_of_prefix hslots]

theorem exists_refusal_of_length_ne (hr : decode raw = .ok r)
    (h : raw <+: raw' ∨ raw' <+: raw) (hlength : raw.length ≠ raw'.length) :
    ∃ refusal, decode raw' = .error refusal := by
  cases hdecode : decode raw' with
  | error refusal => exact ⟨refusal, rfl⟩
  | ok s =>
      refine absurd (congrArg List.length ?_) hlength
      rcases h with h | h
      · exact eq_of_prefix_of_decode hr hdecode h
      · exact (eq_of_prefix_of_decode hdecode hr h).symm

/-- A sequence that is decoded is refused with any values added behind it, and with any number
of slots cut from its end. -/
theorem decode_refuses_longer_and_shorter (h : decode raw = .ok r) :
    (∀ tail : List Value, tail ≠ [] → ∃ refusal, decode (raw ++ tail) = .error refusal) ∧
      ∀ n < raw.length, ∃ refusal, decode (raw.take n) = .error refusal := by
  refine ⟨fun tail htail => ?_, fun n hn => ?_⟩
  · refine exists_refusal_of_length_ne h (.inl (List.prefix_append raw tail)) ?_
    have hpos := List.length_pos_iff.mpr htail
    rw [List.length_append]
    omega
  · refine exists_refusal_of_length_ne h (.inr (List.take_prefix n raw)) ?_
    rw [List.length_take]
    omega

/-- A compact request with one sibling and two peaks: neither another digest behind it nor a whole
request is taken for a part of it, and without its last peak it is none. -/
theorem decode_refuses_longer_and_shorter_two_peaks :
    let raw : List Value := [.int 2, .int 7, .int 5, .int 1, .int 3, .int 1, .int 4, .int 2,
      .int 8, .int 9]
    (∃ r, decode raw = .ok r) ∧ (∃ refusal, decode (raw ++ [.int 6]) = .error refusal) ∧
      (∃ refusal, decode (raw ++ raw) = .error refusal) ∧
      ∃ refusal, decode (raw.take 9) = .error refusal := by
  intro raw
  let r : Request := .compact ⟨⟨7⟩, ⟨5⟩, 1, 3, [⟨4⟩], [⟨8⟩, ⟨9⟩]⟩
  have hdecode : decode raw = .ok r := decode_eq_ok_iff.mpr ⟨⟨by decide, by decide⟩, rfl⟩
  obtain ⟨hlonger, hshorter⟩ := decode_refuses_longer_and_shorter hdecode
  exact ⟨⟨r, hdecode⟩, hlonger _ (List.cons_ne_nil _ _), hlonger _ (List.cons_ne_nil _ _),
    hshorter 9 (by decide)⟩

end MountainRange.Encoding
