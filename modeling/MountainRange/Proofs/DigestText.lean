import MountainRange.Proofs.FieldValues
set_option autoImplicit false

/-!
# Digests and felts written in base sixteen

A digest is written with as many digits as the largest one needs, and what is written is read
as the digest again.  A felt is turned from base ten into as many digits; a number that needs
more of them is written in full.
-/

namespace MountainRange

namespace Text

/-- A number with room in some digits is written by them, with zeros in front. -/
theorem hexDigits_eq_hexPadded (width : Nat) {n : Nat} (h : n < 16 ^ (width + 1)) :
    hexDigits (width + 1) n = hexPadded (width + 1) n := by
  induction width generalizing n with
  | zero =>
      have hlt : n < 16 := by simpa using h
      simp [hexDigits, hexPadded, Nat.toDigits_of_lt_base hlt, Nat.mod_eq_of_lt hlt]
  | succ width ih =>
      have hrest : n / 16 < 16 ^ (width + 1) :=
        Nat.div_lt_of_lt_mul (by rwa [Nat.mul_comm, ← Nat.pow_succ])
      rw [hexDigits, ih hrest]
      by_cases hlt : n < 16
      · have hzero : Nat.toDigits 16 0 = ['0'] := Nat.toDigits_of_lt_base (by decide)
        simp [hexPadded, Nat.div_eq_of_lt hlt, Nat.mod_eq_of_lt hlt, hzero,
          Nat.toDigits_of_lt_base hlt, List.replicate_succ']
      · rw [hexPadded, hexPadded, Nat.toDigits_of_base_le (by decide) (Nat.le_of_not_lt hlt)]
        simp

theorem length_hexPadded (width n : Nat) :
    (hexPadded width n).length = max width (Nat.toDigits 16 n).length := by
  simp only [hexPadded, List.length_append, List.length_replicate]
  omega

/-- Digits with zeros in front are told by how many they are. -/
theorem paddedDigits_eq_hexPadded {width zeros n : Nat}
    (h : (paddedDigits 16 zeros n).length = max width (Nat.toDigits 16 n).length) :
    paddedDigits 16 zeros n = hexPadded width n := by
  simp only [paddedDigits, List.length_append, List.length_replicate] at h
  have hzeros : zeros = width - (Nat.toDigits 16 n).length := by omega
  rw [paddedDigits, hexPadded, hzeros]

theorem spellsHex_hexPadded (width n : Nat) :
    SpellsHex n (ofChars ('0' :: 'x' :: hexPadded width n)) :=
  ⟨_, _, FieldText.toLower_paddedDigits _ n, rfl⟩

/-- A number with room in some digits is spelled by them behind the mark. -/
theorem spellsHex_hexDigits (width : Nat) {n : Nat} (h : n < 16 ^ (width + 1)) :
    SpellsHex n (Text.of ("0x" ++ String.ofList (hexDigits (width + 1) n))) := by
  have htext : Text.of ("0x" ++ String.ofList (hexPadded (width + 1) n)) =
      ofChars ('0' :: 'x' :: hexPadded (width + 1) n) := by
    rw [Text.of_append]
    simp [Text.of, ofChars]
  rw [hexDigits_eq_hexPadded width h, htext]
  exact spellsHex_hexPadded (width + 1) n

end Text

namespace CompactDigest

variable (d : CompactDigest)

theorem toNat_lt : d.toNat < fieldPrime := d.value.isLt

theorem toNat_lt_hexDigits : d.toNat < 16 ^ (63 + 1) := Nat.lt_trans d.toNat_lt (by decide)

/-- The text of a digest has 64 digits. -/
theorem hex_eq : d.hex = "0x" ++ String.ofList (Text.hexPadded 64 d.toNat) := by
  rw [hex, Text.hexDigits_eq_hexPadded 63 d.toNat_lt_hexDigits]

/-- The text of a digest spells its number. -/
theorem spellsHex_hex : Text.SpellsHex d.toNat (Text.of d.hex) :=
  Text.spellsHex_hexDigits 63 d.toNat_lt_hexDigits

end CompactDigest

/-! ## Felts -/

namespace FieldText

open Text (IsNumeral paddedDigits hexPadded)

variable {t : Text}

/-- A numeral of a natural is turned into at least 64 digits. -/
theorem feltToHex_of_numeral {n : Nat} (h : IsNumeral n t) :
    feltToHex (.text t) = .ok (String.ofList (hexPadded 64 n)) := by
  have hread : Text.readInt t = .ok (n : Int) := Text.readInt_eq_ok_iff.mpr h
  have hsign : ¬(n : Int) < 0 := by omega
  simp only [feltToHex, hread, if_neg hsign, Int.toNat_natCast]

/-- Every other text is refused. -/
theorem feltToHex_of_not_numeral (h : ∀ n : Nat, ¬IsNumeral n t) :
    feltToHex (.text t) = .error (.notNatural (.text t)) := by
  cases hread : Text.readInt t with
  | error e => simp [feltToHex, hread]
  | ok m =>
      have hnumeral := Text.readInt_eq_ok_iff.mp hread
      have hsign : m < 0 := by
        by_contra hnatural
        obtain ⟨n, rfl⟩ := Int.eq_ofNat_of_zero_le (Int.not_lt.mp hnatural)
        exact h n hnumeral
      simp only [feltToHex, hread, if_pos hsign]

/-- The decimal of a natural is a numeral of it, unless it is too long. -/
theorem isNumeral_toString {n : Nat} (h : n < Nat.pow 10 Text.Numeral.maxDigits) :
    IsNumeral n (Text.of (toString (n : Int))) := by
  rw [← Text.readInt_eq_ok_iff, readInt_toString, if_pos h]

theorem feltToHex_eq_ok_iff {s : String} :
    feltToHex (.text t) = .ok s ↔
      ∃ n : Nat, IsNumeral n t ∧ s = String.ofList (hexPadded 64 n) := by
  constructor
  · intro h
    by_cases hnumeral : ∃ n : Nat, IsNumeral n t
    · obtain ⟨n, hn⟩ := hnumeral
      rw [feltToHex_of_numeral hn] at h
      exact ⟨n, hn, (Except.ok.inj h).symm⟩
    · rw [feltToHex_of_not_numeral (not_exists.mp hnumeral)] at h
      cases h
  · rintro ⟨n, hn, rfl⟩
    exact feltToHex_of_numeral hn

theorem lt_pow_maxDigits_of_lt_fieldPrime {n : Nat} (h : n < fieldPrime) :
    n < Nat.pow 10 Text.Numeral.maxDigits :=
  Nat.lt_trans h (by decide +kernel)

/-- The numeral of a digest is turned into the digits of the digest. -/
theorem feltToHex_of_digest {d : CompactDigest} (h : IsNumeral d.toNat t) :
    ∃ s : String, feltToHex (.text t) = .ok s ∧ s.length = 64 ∧ "0x" ++ s = d.hex ∧
      parseCompact (.text (Text.of ("0x" ++ s))) = .ok d := by
  refine ⟨_, feltToHex_of_numeral h, ?_, d.hex_eq.symm, ?_⟩
  · have hroom : (Nat.toDigits 16 d.toNat).length ≤ 64 :=
      (Nat.length_toDigits_le_iff (by decide) (by decide)).mpr (Nat.lt_trans d.toNat_lt (by decide))
    rw [String.length_ofList, Text.length_hexPadded]
    omega
  · rw [← d.hex_eq]
    exact parseCompact_of_spellsHex d _ d.spellsHex_hex

/-- A text is converted as the type of digests would have it: a numeral of a digest to the 64
digits of its text, and nothing else to anything. -/
structure ConvertsAsDigest (t : Text) : Prop where
  digits (d : CompactDigest) : IsNumeral d.toNat t →
    ∃ s : String, feltToHex (.text t) = .ok s ∧ s.length = 64 ∧ "0x" ++ s = d.hex
  refused : (∀ d : CompactDigest, ¬IsNumeral d.toNat t) → ∃ e, feltToHex (.text t) = .error e

/-- A natural that is not in the field is converted all the same; every other text is converted as
the type of digests would have it. -/
theorem convertsAsDigest_iff : ConvertsAsDigest t ↔ ∀ n : Nat, IsNumeral n t → n < fieldPrime := by
  constructor
  · intro hconverts n hn
    by_contra hlarge
    have hnone : ∀ d : CompactDigest, ¬IsNumeral d.toNat t := by
      intro d hd
      have heq : n = d.toNat := Int.ofNat_inj.mp (hn.unique hd)
      have hlt := d.toNat_lt
      omega
    obtain ⟨e, he⟩ := hconverts.refused hnone
    rw [feltToHex_of_numeral hn] at he
    cases he
  · intro hbelow
    refine ⟨fun d hd => ?_, fun hnone => ?_⟩
    · obtain ⟨s, hs, hlength, hhex, -⟩ := feltToHex_of_digest hd
      exact ⟨s, hs, hlength, hhex⟩
    · refine ⟨_, feltToHex_of_not_numeral fun n hn => ?_⟩
      exact hnone ⟨⟨n, hbelow n hn⟩⟩ hn

/-- What comes of a text spells a natural in small letters, with zeros in front up to 64 digits. -/
theorem feltToHex_eq_ok_iff_digits {s : String} : feltToHex (.text t) = .ok s ↔
    ∃ n zeros : Nat, IsNumeral n t ∧ s.toList = paddedDigits 16 zeros n ∧
      s.length = max 64 (Nat.toDigits 16 n).length := by
  rw [feltToHex_eq_ok_iff]
  constructor
  · rintro ⟨n, hn, rfl⟩
    refine ⟨n, 64 - (Nat.toDigits 16 n).length, hn, ?_, ?_⟩
    · rw [String.toList_ofList]
      rfl
    · rw [String.length_ofList, Text.length_hexPadded]
  · rintro ⟨n, zeros, hn, hdigits, hlength⟩
    refine ⟨n, hn, ?_⟩
    rw [← String.length_toList, hdigits] at hlength
    rw [← Text.paddedDigits_eq_hexPadded hlength, ← hdigits, String.ofList_toList]

/-- A text is converted as the type of digests would have it, unless it is a numeral of a natural
that is not in the field: no number is refused for that, and one that needs more than 64 digits is
written in full.  Exactly the numerals of naturals are converted, to digits that spell the same
natural, and what comes of the decimal of a digest is read as the digest again. -/
theorem feltToHex_spells (t : Text) :
    (ConvertsAsDigest t ↔ ∀ n : Nat, IsNumeral n t → n < fieldPrime) ∧
    (∀ s : String, feltToHex (.text t) = .ok s ↔
      ∃ n zeros : Nat, IsNumeral n t ∧ s.toList = paddedDigits 16 zeros n ∧
        s.length = max 64 (Nat.toDigits 16 n).length) ∧
    ((∀ n : Nat, ¬IsNumeral n t) → feltToHex (.text t) = .error (.notNatural (.text t))) ∧
    ∀ d : CompactDigest, t = Text.of (toString (d.toNat : Int)) →
      ∃ s : String, feltToHex (.text t) = .ok s ∧
        parseCompact (.text (Text.of ("0x" ++ s))) = .ok d := by
  refine ⟨convertsAsDigest_iff, fun s => feltToHex_eq_ok_iff_digits, feltToHex_of_not_numeral, ?_⟩
  rintro d rfl
  have hnumeral := isNumeral_toString (lt_pow_maxDigits_of_lt_fieldPrime d.toNat_lt)
  obtain ⟨s, hs, -, -, hparse⟩ := feltToHex_of_digest hnumeral
  exact ⟨s, hs, hparse⟩

/-- A number below zero is refused, and forty-two with a sign and an underscore is turned into the
digits of its digest. -/
theorem feltToHex_spells_forty_two :
    let negative : Text := "-1"
    let felt : Text := " +4_2"
    let d : CompactDigest := ⟨42⟩
    (∀ n : Nat, ¬IsNumeral n negative) ∧
      feltToHex (.text negative) = .error (.notNatural (.text negative)) ∧
      IsNumeral d.toNat felt ∧
      ∃ s : String, feltToHex (.text felt) = .ok s ∧ s.length = 64 ∧ "0x" ++ s = d.hex := by
  intro negative felt d
  have hnegative : Text.readInt negative = .ok (-1) := by rfl
  have hnone : ∀ n : Nat, ¬IsNumeral n negative := by
    intro n hn
    have heq := (Text.readInt_eq_ok_iff.mp hnegative).unique hn
    omega
  have hfelt : IsNumeral d.toNat felt := Text.readInt_eq_ok_iff.mp (by rfl)
  have hbelow : ∀ n : Nat, IsNumeral n felt → n < fieldPrime := by
    intro n hn
    rw [Int.ofNat_inj.mp (hn.unique hfelt)]
    exact d.toNat_lt
  obtain ⟨-, -, hrefused, -⟩ := feltToHex_spells negative
  obtain ⟨hconverts, -⟩ := feltToHex_spells felt
  exact ⟨hnone, hrefused hnone, hfelt, (hconverts.mpr hbelow).digits d hfelt⟩

/-- Two to the power of 256 is no field element, and yet it is turned into 65 digits. -/
theorem feltToHex_two_pow_256 :
    let t : Text :=
      "115792089237316195423570985008687907853269984665640564039457584007913129639936"
    (∃ s : String, feltToHex (.text t) = .ok s ∧ s.length = 65) ∧
      ¬∃ d : CompactDigest, IsNumeral d.toNat t := by
  intro t
  have hread : Text.readInt t = .ok ((2 ^ 256 : Nat) : Int) := by decide +kernel
  have hnumeral := Text.readInt_eq_ok_iff.mp hread
  constructor
  · refine ⟨_, feltToHex_of_numeral hnumeral, ?_⟩
    rw [String.length_ofList]
    decide +kernel
  · rintro ⟨d, hd⟩
    have heq : 2 ^ 256 = d.toNat := Int.ofNat_inj.mp (hnumeral.unique hd)
    have hlt := d.toNat_lt
    rw [← heq] at hlt
    exact absurd hlt (by decide)

end FieldText

end MountainRange
