import MountainRange.Proofs.DigestText
set_option autoImplicit false

/-!
# The codecs of digests

A digest is written as a number, as a list of fields and, if it is wide, as 32 bytes; and it is
read from each of these.  Reading undoes writing and writing undoes reading, and the forms that
are read are exactly those with room for a digest.  What is read from a form is therefore told by
what is written, so each codec is brought to one equivalence and one question about sizes.
-/

namespace MountainRange

/-- Reading and writing undo each other: a digest is read from what is written of it, a form that
is read is what is written of the digest, and exactly the valid forms are read. -/
structure Codec {ε α D : Type} (read : α → Except ε D) (write : D → α) (Valid : α → Prop) :
    Prop where
  read_write : ∀ d, read (write d) = .ok d
  write_read : ∀ a d, read a = .ok d → write d = a
  exists_read_iff : ∀ a, (∃ d, read a = .ok d) ↔ Valid a

/-- It is enough to know what a digest is read from, and which forms are those of a digest. -/
theorem Codec.of_iff {ε α D : Type} {read : α → Except ε D} {write : D → α} {Valid : α → Prop}
    (hread : ∀ a d, read a = .ok d ↔ write d = a) (hvalid : ∀ a, (∃ d, write d = a) ↔ Valid a) :
    Codec read write Valid where
  read_write d := (hread (write d) d).mpr rfl
  write_read a d := (hread a d).mp
  exists_read_iff a := (exists_congr (hread a)).trans (hvalid a)

/-- What is written tells what it was written of. -/
theorem Codec.write_injective {ε α D : Type} {read : α → Except ε D} {write : D → α}
    {Valid : α → Prop} (h : Codec read write Valid) : Function.Injective write := by
  intro d e heq
  have hread := h.read_write d
  rw [heq, h.read_write e] at hread
  exact (Except.ok.inj hread).symm

/-- The fields of an array are its items, if they are as many as asked for. -/
theorem fieldsOf?_array {count : Nat} {items fields : List Value} :
    fieldsOf? count (.array items) = .ok fields ↔ items = fields ∧ items.length = count := by
  simp only [fieldsOf?, Value.iterate?]
  rcases Nat.lt_trichotomy items.length count with hshort | hsame | hlong
  · rw [if_pos hshort]
    exact ⟨nofun, fun h => absurd h.2 (Nat.ne_of_lt hshort)⟩
  · rw [if_neg (Nat.not_lt_of_le (Nat.le_of_eq hsame.symm)),
      if_neg (Nat.not_lt_of_le (Nat.le_of_eq hsame)), Except.ok.injEq, and_iff_left hsame]
  · rw [if_neg (Nat.lt_asymm hlong), if_pos hlong]
    exact ⟨nofun, fun h => absurd h.2 (Nat.ne_of_gt hlong)⟩

/-- A number is written by its digits in base 256, from the highest place down. -/
theorem Bytes.ofNat_eq_map (width n : Nat) : ofNat width n =
    (List.range width).reverse.map fun place => UInt8.ofNat (n / 256 ^ place) := by
  induction width generalizing n with
  | zero => rfl
  | succ width ih =>
      have hplaces : (fun place => UInt8.ofNat (n / 256 ^ place)) ∘ Nat.succ =
          fun place => UInt8.ofNat (n / 256 / 256 ^ place) := by
        funext place
        rw [Function.comp_apply, Nat.pow_succ', Nat.div_div_eq_div_mul]
      rw [ofNat, ih, List.range_succ_eq_map, List.reverse_cons, List.map_append, ← List.map_reverse,
        List.map_map, hplaces, List.map_singleton, Nat.pow_zero, Nat.div_one]

/-! ## Wide digests -/

namespace WideDigest

variable {d : WideDigest}

theorem toNat_ofNat {n : Nat} (h : n < limbBound * limbBound) : (ofNat n h).toNat = n :=
  Nat.div_add_mod' n limbBound

/-- The bits of the high limb stand above those of the low one. -/
theorem toNat_eq_or (d : WideDigest) : d.toNat = d.high.val <<< 128 ||| d.low.val := by
  have hlow : d.low.val < 2 ^ 128 := d.low.isLt
  rw [← Nat.shiftLeft_add_eq_or_of_lt hlow, Nat.shiftLeft_eq]
  rfl

theorem ofInt?_eq_ok_iff {n : Int} : ofInt? n = .ok d ↔ (d.toNat : Int) = n := by
  refine ⟨fun h => (eq_toNat_of_ofInt? h).symm, ?_⟩
  rintro rfl
  exact d.ofInt?_toNat

theorem codec_int : Codec (fun n : Int => ofValue? (.int n)) (fun d => (d.toNat : Int))
    (fun n => 0 ≤ n ∧ n < 2 ^ 256) := by
  have hbound : ((limbBound * limbBound : Nat) : Int) = 2 ^ 256 := by decide
  refine .of_iff (fun n d => ofInt?_eq_ok_iff) fun n => ⟨?_, ?_⟩
  · rintro ⟨d, rfl⟩
    have hlt := d.toNat_lt
    omega
  · rintro ⟨hnatural, hlt⟩
    obtain ⟨k, rfl⟩ := Int.eq_ofNat_of_zero_le hnatural
    have hk : k < limbBound * limbBound := by omega
    exact ⟨ofNat k hk, congrArg Int.ofNat (toNat_ofNat hk)⟩

/-! ### Fields -/

theorem ofFields?_eq_ok_iff {ns : List Int} :
    ofFields? (.array (ns.map .int)) = .ok d ↔ d.fields.map (↑) = ns := by
  constructor
  · intro h
    obtain ⟨items, hitems, hmake⟩ := bind_eq_ok_iff.mp h
    obtain ⟨rfl, hlength⟩ := fieldsOf?_array.mp hitems
    rw [List.length_map, List.length_eq_two] at hlength
    obtain ⟨high, low, rfl⟩ := hlength
    obtain ⟨rfl, rfl⟩ := make?_int_eq_ok_iff.mp hmake
    rfl
  · rintro rfl
    exact bind_eq_ok_iff.mpr ⟨_, fieldsOf?_array.mpr ⟨rfl, rfl⟩,
      make?_int_eq_ok_iff.mpr ⟨rfl, rfl⟩⟩

theorem codec_fields : Codec (fun ns : List Int => ofFields? (.array (ns.map .int)))
    (fun d => d.fields.map (↑)) (fun ns => ns.length = 2 ∧ ∀ n ∈ ns, 0 ≤ n ∧ n < 2 ^ 128) := by
  have hlimb (n : Int) : (∃ x : Limb, n = (x.val : Int)) ↔ 0 ≤ n ∧ n < 2 ^ 128 :=
    Number.exists_eq_val_iff limbBound n
  refine .of_iff (fun ns d => ofFields?_eq_ok_iff) fun ns => ⟨?_, ?_⟩
  · rintro ⟨d, rfl⟩
    refine ⟨rfl, ?_⟩
    exact List.forall_mem_cons.mpr ⟨(hlimb _).mp ⟨d.high, rfl⟩,
      List.forall_mem_singleton.mpr ((hlimb _).mp ⟨d.low, rfl⟩)⟩
  · rintro ⟨hlength, hall⟩
    obtain ⟨high, low, rfl⟩ := List.length_eq_two.mp hlength
    obtain ⟨x, rfl⟩ := (hlimb high).mpr (hall high (by simp))
    obtain ⟨y, rfl⟩ := (hlimb low).mpr (hall low (by simp))
    exact ⟨⟨x, y⟩, rfl⟩

/-! ### Bytes -/

theorem length_toBytes (d : WideDigest) : d.toBytes.length = 32 := Bytes.length_ofNat 32 d.toNat

/-- As many bytes as a digest has are read as the digest of what they spell. -/
theorem ofBytes?_of_length {bytes : List UInt8} (h : bytes.length = 32) :
    ∃ hroom : Bytes.toNat bytes < limbBound * limbBound,
      ofBytes? bytes = .ok (ofNat (Bytes.toNat bytes) hroom) := by
  have hroom := Bytes.toNat_lt bytes
  rw [h] at hroom
  exact ⟨hroom, dif_pos h⟩

theorem ofBytes?_toBytes (d : WideDigest) : ofBytes? d.toBytes = .ok d := by
  have hroom : d.toNat < 1 <<< (8 * 32) := d.toNat_lt
  obtain ⟨_, hread⟩ := ofBytes?_of_length d.length_toBytes
  rw [hread]
  simp only [toBytes, Bytes.toNat_ofNat hroom, ofNat_toNat]

theorem toBytes_of_ofBytes? {bytes : List UInt8} (h : ofBytes? bytes = .ok d) :
    d.toBytes = bytes := by
  by_cases hlength : bytes.length = 32
  · obtain ⟨hroom, hread⟩ := ofBytes?_of_length hlength
    cases hread.symm.trans h
    rw [toBytes, toNat_ofNat, ← hlength, Bytes.ofNat_toNat]
  · rw [ofBytes?, dif_neg hlength] at h
    cases h

theorem codec_bytes : Codec ofBytes? toBytes (fun bytes => bytes.length = 32) where
  read_write := ofBytes?_toBytes
  write_read _ _ := toBytes_of_ofBytes?
  exists_read_iff bytes := by
    constructor
    · rintro ⟨d, hread⟩
      rw [← toBytes_of_ofBytes? hread, length_toBytes]
    · intro hlength
      obtain ⟨_, hread⟩ := ofBytes?_of_length hlength
      exact ⟨_, hread⟩

/-- The limbs are written one behind the other. -/
theorem toBytes_eq (d : WideDigest) :
    d.toBytes = Bytes.ofNat 16 d.high.val ++ Bytes.ofNat 16 d.low.val := by
  have hlow : d.low.val < 1 <<< (8 * 16) := d.low.isLt
  rw [← Bytes.ofNat_append 16 hlow, Nat.shiftLeft_eq]
  rfl

/-! ### Text -/

theorem parseWide_hex (d : WideDigest) : FieldText.parseWide (.text (Text.of d.hex)) = .ok d :=
  FieldText.parseWide_of_spellsHex d _ (Text.spellsHex_hexDigits 63 d.toNat_lt)

end WideDigest

/-! ## Compact digests -/

namespace CompactDigest

variable {d : CompactDigest}

theorem ofInt?_eq_ok_iff {n : Int} : ofInt? n = .ok d ↔ (d.toNat : Int) = n := by
  refine ⟨fun h => (eq_toNat_of_ofInt? h).symm, ?_⟩
  rintro rfl
  exact d.ofInt?_toNat

theorem codec_int : Codec (fun n : Int => ofValue? (.int n)) (fun d => (d.toNat : Int))
    (fun n => 0 ≤ n ∧ n < fieldPrime) := by
  refine .of_iff (fun n d => ofInt?_eq_ok_iff) fun n => ?_
  rw [← Number.exists_eq_val_iff]
  exact ⟨fun ⟨d, hd⟩ => ⟨d.value, hd.symm⟩, fun ⟨x, hx⟩ => ⟨⟨x⟩, hx.symm⟩⟩

theorem ofFields?_eq_ok_iff {ns : List Int} :
    ofFields? (.array (ns.map .int)) = .ok d ↔ d.fields.map (↑) = ns := by
  constructor
  · intro h
    obtain ⟨items, hitems, hvalue⟩ := bind_eq_ok_iff.mp h
    obtain ⟨rfl, hlength⟩ := fieldsOf?_array.mp hitems
    rw [List.length_map, List.length_eq_one_iff] at hlength
    obtain ⟨n, rfl⟩ := hlength
    exact congrArg (fun n => [n]) (ofInt?_eq_ok_iff.mp hvalue)
  · rintro rfl
    exact bind_eq_ok_iff.mpr ⟨_, fieldsOf?_array.mpr ⟨rfl, rfl⟩, d.ofInt?_toNat⟩

theorem codec_fields : Codec (fun ns : List Int => ofFields? (.array (ns.map .int)))
    (fun d => d.fields.map (↑)) (fun ns => ns.length = 1 ∧ ∀ n ∈ ns, 0 ≤ n ∧ n < fieldPrime) := by
  refine .of_iff (fun ns d => ofFields?_eq_ok_iff) fun ns => ⟨?_, ?_⟩
  · rintro ⟨d, rfl⟩
    refine ⟨rfl, ?_⟩
    exact List.forall_mem_singleton.mpr ((Number.exists_eq_val_iff fieldPrime _).mp ⟨d.value, rfl⟩)
  · rintro ⟨hlength, hall⟩
    obtain ⟨n, rfl⟩ := List.length_eq_one_iff.mp hlength
    obtain ⟨x, rfl⟩ := (Number.exists_eq_val_iff fieldPrime n).mpr (hall n (by simp))
    exact ⟨⟨x⟩, rfl⟩

theorem parseCompact_hex (d : CompactDigest) :
    FieldText.parseCompact (.text (Text.of d.hex)) = .ok d :=
  FieldText.parseCompact_of_spellsHex d _ d.spellsHex_hex

end CompactDigest

/-! ## Both forms -/

/-- The codecs of digests undo each other.  A wide digest has the bits of its high limb above those
of its low one; it is read from integers of 256 bits, from lists of two integers of 128 bits and
from 32 bytes, which are the 16 of the high limb and the 16 of the low one, each from the highest
place down.  A compact digest is read from the integers that represent an element, alone or as the
one item of a list.  The text of a digest is parsed as the digest. -/
theorem digest_codecs_invert :
    let bigEndian (limb : Limb) : List UInt8 :=
      (List.range 16).reverse.map fun place => UInt8.ofNat (limb.val / 256 ^ place)
    (Codec (fun n : Int => WideDigest.ofValue? (.int n)) (fun d => (d.toNat : Int))
        (fun n => 0 ≤ n ∧ n < 2 ^ 256) ∧
      Codec (fun ns : List Int => WideDigest.ofFields? (.array (ns.map .int)))
        (fun d => d.fields.map (↑)) (fun ns => ns.length = 2 ∧ ∀ n ∈ ns, 0 ≤ n ∧ n < 2 ^ 128) ∧
      Codec WideDigest.ofBytes? WideDigest.toBytes (fun bytes => bytes.length = 32) ∧
      ∀ d : WideDigest, d.toNat = d.high.val <<< 128 ||| d.low.val ∧
        d.toBytes = bigEndian d.high ++ bigEndian d.low ∧
        FieldText.parseWide (.text (Text.of d.hex)) = .ok d) ∧
    Codec (fun n : Int => CompactDigest.ofValue? (.int n)) (fun d => (d.toNat : Int))
      (fun n => 0 ≤ n ∧ n < fieldPrime) ∧
    Codec (fun ns : List Int => CompactDigest.ofFields? (.array (ns.map .int)))
      (fun d => d.fields.map (↑)) (fun ns => ns.length = 1 ∧ ∀ n ∈ ns, 0 ≤ n ∧ n < fieldPrime) ∧
    ∀ d : CompactDigest, FieldText.parseCompact (.text (Text.of d.hex)) = .ok d := by
  intro bigEndian
  refine ⟨⟨WideDigest.codec_int, WideDigest.codec_fields, WideDigest.codec_bytes, fun d => ?_⟩,
    CompactDigest.codec_int, CompactDigest.codec_fields, CompactDigest.parseCompact_hex⟩
  refine ⟨d.toNat_eq_or, ?_, d.parseWide_hex⟩
  rw [d.toBytes_eq, Bytes.ofNat_eq_map, Bytes.ofNat_eq_map]

end MountainRange
