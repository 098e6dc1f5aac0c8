import MountainRange.Proofs.GivenLeaves
import MountainRange.Proofs.Numerals
set_option autoImplicit false

/-!
# The numbers that field values spell

A text is read as a number exactly if it spells it, so that nothing but naturals is ever read.
Every text that passes for hexadecimal in a payload is one of these, and its normal form spells
the same number.
-/

namespace MountainRange

namespace Text

/-! ## Trimmed texts -/

/-- A text is its trimmed form between blanks. -/
theorem exists_trim (t : Text) :
    ∃ before after, AllBlank before ∧ AllBlank after ∧ t = before ++ trim t ++ after := by
  let body := t.dropWhile isBlank
  refine ⟨t.takeWhile isBlank, (body.reverse.takeWhile isBlank).reverse, ?_, ?_, ?_⟩
  · intro c hc
    exact List.mem_takeWhile_imp hc
  · intro c hc
    exact List.mem_takeWhile_imp (List.mem_reverse.mp hc)
  · have hbody : trim t ++ (body.reverse.takeWhile isBlank).reverse = body := by
      rw [trim, ← List.reverse_append, List.takeWhile_append_dropWhile, List.reverse_reverse]
    rw [List.append_assoc, hbody, List.takeWhile_append_dropWhile]

/-! ## Digits -/

/-- No range of other digits meets a range of blanks. -/
theorem typographicRanges_disjoint : ∀ r ∈ typographicRanges, ∀ b ∈ blankRanges,
    r.2 < b.1 ∨ b.2 < r.1 := by decide

/-- A blank is no digit of any kind. -/
theorem isDigit_of_isBlank {c : Letter} (h : isBlank c = true) : isDigit c = false := by
  obtain ⟨b, hb⟩ := Option.isSome_iff_exists.mp h
  obtain ⟨hmem, hfrom, hto⟩ := mem_of_rangeOf? hb
  have hdecimal : decimalDigit? c = none := by
    cases hd : decimalDigit? c with
    | none => rfl
    | some d =>
        rw [isBlank_of_decimalDigit? hd] at h
        cases h
  have htypographic : rangeOf? typographicRanges c = none := by
    rw [Option.eq_none_iff_forall_ne_some]
    intro r hr
    obtain ⟨hrmem, hrfrom, hrto⟩ := mem_of_rangeOf? hr
    have hapart := typographicRanges_disjoint r hrmem b hmem
    omega
  rw [isDigit, hdecimal, inRanges, htypographic]
  rfl

/-- Nothing around a numeral is a digit. -/
theorem eq_nil_of_isAround {t : Text} (haround : ∀ c ∈ t, Payload.isAround c = true)
    (hdigit : ∀ c ∈ t, isDigit c = true) : t = [] := by
  apply List.eq_nil_iff_forall_not_mem.mpr
  intro c hc
  have hblank : isBlank c = true := by
    have h := haround c hc
    rw [Payload.isAround, Bool.and_eq_true] at h
    exact h.1
  simpa [isDigit_of_isBlank hblank] using hdigit c hc

/-- A run of nothing but digits has no underscores. -/
theorem map_decimalDigit?_of_grouped {ds : List Nat} {run : Text} (h : Grouped ds run)
    (hall : ∀ c ∈ run, isDigit c = true) : run.map decimalDigit? = ds.map some := by
  have hunderscore : isDigit (.char '_') = false := by decide
  induction h with
  | last hc => simp [hc]
  | digit hc _ ih =>
      have hrest := ih (List.forall_mem_cons.mp hall).2
      simp [hc, hrest]
  | underscore hc _ _ => simp [hunderscore] at hall

theorem ne_nil_of_grouped {ds : List Nat} {run : Text} (h : Grouped ds run) : ds ≠ [] := by
  cases h <;> simp

/-- Digits that are not too many spell the number that they come to. -/
theorem spellsDecimal_of_digits {t : Text} {ds : List Nat} (h : t.map decimalDigit? = ds.map some)
    (hlt : ∀ d ∈ ds, d < 10) (hne : ds ≠ []) (hlength : ds.length ≤ Numeral.maxDigits) :
    SpellsDecimal (ofDigits 10 ds) t := by
  obtain ⟨zeros, hzeros⟩ := exists_paddedDigits (by decide : 1 < 10) hne hlt
  refine ⟨zeros, ?_, ?_⟩
  · rwa [← hzeros, List.length_map]
  · rw [← hzeros, h, ofChars, List.map_map, List.map_map]
    exact List.map_congr_left fun d hd => (decimalDigit?_digitChar (hlt d hd)).symm

/-- A numeral of nothing but digits has no sign and spells a natural. -/
theorem IsNumeral.spellsDecimal {t : Text} {n : Int} (h : IsNumeral n t)
    (hall : ∀ c ∈ t, isDigit c = true) : ∃ k : Nat, n = k ∧ SpellsDecimal k t := by
  obtain ⟨hbefore, hsign, hrun, hlength, hafter⟩ := h
  rename_i before sign run after negative ds
  simp only [List.mem_append] at hall
  obtain rfl : before = [] := eq_nil_of_isAround hbefore fun c hc => hall c (.inl hc)
  obtain rfl : after = [] :=
    eq_nil_of_isAround hafter fun c hc => hall c (.inr (.inr (.inr hc)))
  have hplus : isDigit (.char '+') = false := by decide
  have hminus : isDigit (.char '-') = false := by decide
  cases hsign with
  | plus => simpa [hplus] using hall '+' (by simp)
  | minus => simpa [hminus] using hall '-' (by simp)
  | none =>
      have hdigits := map_decimalDigit?_of_grouped hrun fun c hc => hall c (by simp [hc])
      refine ⟨ofDigits 10 ds, rfl, ?_⟩
      simpa using spellsDecimal_of_digits hdigits (Numeral.lt_ten_of_grouped hrun)
        (ne_nil_of_grouped hrun) hlength

end Text

namespace FieldText

open Text (AllBlank SpellsDecimal SpellsHex paddedDigits ofChars)

/-! ## Base sixteen -/

/-- A text is taken for hexadecimal exactly if payloads take it for that. -/
theorem isHex_iff {t : Text} : isHex t = true ↔ ∃ n, SpellsHex n t := by
  rw [← Payload.hexFault?_eq_none_iff, isHex, Payload.hexFault?]
  cases hmark : afterMark t with
  | none => simp
  | some digits =>
      cases digits with
      | nil => simp
      | cons c digits => simp

/-- The normal form of digits is small, with one more zero in front if they are odd in number. -/
theorem normalDigits_of_lower {digits : List Char} {zeros n : Nat}
    (h : digits.map Char.toLower = paddedDigits 16 zeros n) :
    normalDigits (ofChars digits) =
      .ok (ofChars (paddedDigits 16 (zeros + digits.length % 2) n)) := by
  have hhex : isHex (.char '0' :: .char 'x' :: ofChars digits) = true :=
    isHex_iff.mpr ⟨n, zeros, digits, h, rfl⟩
  have hsmall : (ofChars digits).map smallLetter = ofChars (paddedDigits 16 zeros n) := by
    rw [← h, ofChars, ofChars, List.map_map, List.map_map]
    rfl
  have hlength : (ofChars digits).length = digits.length := List.length_map _
  rw [normalDigits, if_pos hhex, evenDigits, hlength]
  rcases Nat.mod_two_eq_zero_or_one digits.length with heven | hodd
  · rw [heven, if_neg (by decide), hsmall]
    rfl
  · rw [hodd, if_pos rfl, List.map_cons, hsmall]
    rfl

/-- Digits have a normal form exactly if they spell a number, and the normal form has its value. -/
theorem spellsHex_of_normalDigits {digits normal : Text} (h : normalDigits digits = .ok normal) :
    SpellsHex (Text.hexValue normal) (.char '0' :: .char 'x' :: digits) := by
  have hhex : isHex (.char '0' :: .char 'x' :: digits) = true := by
    cases hhex : isHex (.char '0' :: .char 'x' :: digits) with
    | true => rfl
    | false => simp [normalDigits, hhex] at h
  obtain ⟨n, hn⟩ := isHex_iff.mp hhex
  obtain ⟨digits', ds, heq, hds, hne, hvalue⟩ := hn.exists_digits
  cases heq
  obtain ⟨normal', hnormal', hvalue'⟩ := normalDigits_of_digits hds hne
  obtain rfl : normal' = normal := Except.ok.inj (hnormal'.symm.trans h)
  rwa [hvalue', hvalue]

theorem eq_of_afterMark {t digits : Text} (h : afterMark t = some digits) :
    t = .char '0' :: .char 'x' :: digits := by
  unfold afterMark at h
  split at h
  · cases h
    rfl
  · cases h

/-! ## Spellings -/

/-- What is read as a number is one of its spellings; no text is read as a number below zero. -/
theorem spells_of_parse {t : Text} {n : Int} (h : parse (.text t) = .ok n) :
    ∃ k : Nat, n = k ∧ Spells k (.text t) := by
  obtain ⟨before, after, hbefore, hafter, ht⟩ := Text.exists_trim t
  have hparse : parseText t = .ok n := h
  unfold parseText at hparse
  dsimp only at hparse
  split at hparse
  · next digits hmark =>
      obtain ⟨normal, hnormal, rfl⟩ := map_eq_ok hparse
      have hspells := spellsHex_of_normalDigits hnormal
      rw [← eq_of_afterMark hmark] at hspells
      refine ⟨Text.hexValue normal, rfl, ?_⟩
      rw [ht]
      exact .hexadecimal hbefore hspells hafter
  · split at hparse
    · cases hparse
    · next hdigits =>
        have hnumeral := Text.readInt_eq_ok_iff.mp (mapError_eq_ok hparse)
        have hall : ∀ c ∈ Text.trim t, Text.isDigit c = true := by
          simp only [Bool.or_eq_true, not_or] at hdigits
          simpa using hdigits.2
        obtain ⟨k, hk, hspells⟩ := hnumeral.spellsDecimal hall
        refine ⟨k, hk, ?_⟩
        rw [ht]
        exact .decimal hbefore hspells hafter

/-- A text is read as a number exactly if it spells the number. -/
theorem parse_text_eq_ok_iff {t : Text} {n : Nat} :
    parse (.text t) = .ok (n : Int) ↔ Spells n (.text t) := by
  constructor
  · intro h
    obtain ⟨k, hk, hspells⟩ := spells_of_parse h
    rwa [Int.ofNat_inj.mp hk]
  · exact parse_of_spells

/-- The decimal of a natural is one of its spellings, unless it is too long. -/
theorem spellsDecimal_toString {n : Nat} (h : n < Nat.pow 10 Text.Numeral.maxDigits) :
    SpellsDecimal n (Text.of (toString (n : Int))) := by
  refine ⟨0, ?_, ?_⟩
  · simpa [paddedDigits] using length_toDigits_le_iff.mpr h
  · rw [toString_natural]
    rfl

/-! ## Normal forms -/

theorem normalizeValue_of_lower {digits : List Char} {zeros n : Nat}
    (h : digits.map Char.toLower = paddedDigits 16 zeros n) :
    normalizeValue (.text (ofChars ('0' :: 'x' :: digits))) none =
      .ok (.text (ofChars ('0' :: 'x' :: paddedDigits 16 (zeros + digits.length % 2) n))) := by
  have hmark : afterMark (ofChars ('0' :: 'x' :: digits)) = some (ofChars digits) := rfl
  simp only [normalizeValue, hmark, normalDigits_of_lower h]
  rfl

theorem toLower_paddedDigits (zeros n : Nat) :
    (paddedDigits 16 zeros n).map Char.toLower = paddedDigits 16 zeros n := by
  have hall : ∀ d < 16, (Nat.digitChar d).toLower = Nat.digitChar d := by decide
  obtain ⟨ds, hds, -, hlt, -⟩ := Text.exists_digits_padded (by decide : 1 < 16) zeros n
  rw [hds, List.map_map]
  exact List.map_congr_left fun d hd => hall d (hlt d hd)

/-- A text that is hexadecimal for payloads spells a number, and so does its normal form, which
is small, even in its number of digits, and its own normal form. -/
theorem exists_normal {t : Text} (h : Payload.hexFault? t = none) :
    ∃ n zeros : Nat, SpellsHex n t ∧ (paddedDigits 16 zeros n).length % 2 = 0 ∧
      let normal := ofChars ('0' :: 'x' :: paddedDigits 16 zeros n)
      normalizeValue (.text t) none = .ok (.text normal) ∧
        normalizeValue (.text normal) none = .ok (.text normal) := by
  obtain ⟨n, zeros, digits, hlower, rfl⟩ := Payload.hexFault?_eq_none_iff.mp h
  have hlength : digits.length = zeros + (Nat.toDigits 16 n).length := by
    simpa [paddedDigits] using congrArg List.length hlower
  have heven : (paddedDigits 16 (zeros + digits.length % 2) n).length % 2 = 0 := by
    simp only [paddedDigits, List.length_append, List.length_replicate]
    omega
  refine ⟨n, zeros + digits.length % 2, ⟨zeros, digits, hlower, rfl⟩, heven,
    normalizeValue_of_lower hlower, ?_⟩
  have hagain := normalizeValue_of_lower (toLower_paddedDigits (zeros + digits.length % 2) n)
  rwa [heven, Nat.add_zero] at hagain

/-! ## Values -/

/-- Every text is read as the natural that it spells, or refused as no spelling of any.  The
decimal of a natural is one of its spellings, unless it is too long, and so are its hexadecimal
digits in either case behind `0x`; both may have blanks around, and the latter zeros in front.
What payloads take for hexadecimal is read as its value, and has a normal form that spells the
same number in small letters, with an even number of digits, and is its own normal form. -/
theorem parse_text_spells :
    (∀ t : Text, (∃ e, parse (.text t) = .error e ∧ ∀ n : Nat, ¬Spells n (.text t)) ∨
      ∃ n : Nat, parse (.text t) = .ok (n : Int) ∧ Spells n (.text t)) ∧
    (∀ (n : Nat) (before after : Text), AllBlank before → AllBlank after →
      (n < Nat.pow 10 Text.Numeral.maxDigits →
        parse (.text (before ++ Text.of (toString (n : Int)) ++ after)) = .ok (n : Int)) ∧
      ∀ (zeros : Nat) (digits : List Char),
        digits.map Char.toLower = List.replicate zeros '0' ++ Nat.toDigits 16 n →
        parse (.text (before ++ ofChars ('0' :: 'x' :: digits) ++ after)) = .ok (n : Int)) ∧
    ∀ t : Text, Payload.hexFault? t = none →
      ∃ n zeros : Nat, SpellsHex n t ∧ parse (.text t) = .ok (n : Int) ∧
        (paddedDigits 16 zeros n).length % 2 = 0 ∧
        let normal := ofChars ('0' :: 'x' :: paddedDigits 16 zeros n)
        normalizeValue (.text t) none = .ok (.text normal) ∧
          normalizeValue (.text normal) none = .ok (.text normal) := by
  refine ⟨?_, ?_, ?_⟩
  · intro t
    cases hparse : parse (.text t) with
    | ok n =>
        obtain ⟨k, rfl, hspells⟩ := spells_of_parse hparse
        exact .inr ⟨k, rfl, hspells⟩
    | error e =>
        refine .inl ⟨e, rfl, ?_⟩
        intro n hspells
        rw [parse_text_eq_ok_iff.mpr hspells] at hparse
        cases hparse
  · intro n before after hbefore hafter
    constructor
    · intro hn
      exact parse_text_eq_ok_iff.mpr (.decimal hbefore (spellsDecimal_toString hn) hafter)
    · intro zeros digits hlower
      exact parse_text_eq_ok_iff.mpr (.hexadecimal hbefore ⟨zeros, digits, hlower, rfl⟩ hafter)
  · intro t ht
    obtain ⟨n, zeros, hspells, heven, hnormal, hagain⟩ := exists_normal ht
    have hread := parse_text_eq_ok_iff.mpr (spells_of_spellsHex hspells)
    exact ⟨n, zeros, hspells, hread, heven, hnormal, hagain⟩

/-- The number 2748 behind a tabulator, in base ten and in base sixteen with capital letters. -/
theorem parse_text_spells_capitals :
    let tabulator : Text := "\t"
    let written : Text := ofChars ['0', 'x', 'A', 'B', 'C']
    AllBlank tabulator ∧ 2748 < Nat.pow 10 Text.Numeral.maxDigits ∧
      parse (.text (tabulator ++ Text.of (toString ((2748 : Nat) : Int)) ++ [])) = .ok 2748 ∧
      ['A', 'B', 'C'].map Char.toLower = List.replicate 0 '0' ++ Nat.toDigits 16 2748 ∧
      parse (.text (tabulator ++ written ++ [])) = .ok 2748 ∧
      Payload.hexFault? written = none ∧
      ∃ n zeros : Nat, SpellsHex n written ∧ parse (.text written) = .ok (n : Int) ∧
        (paddedDigits 16 zeros n).length % 2 = 0 ∧
        let normal := ofChars ('0' :: 'x' :: paddedDigits 16 zeros n)
        normalizeValue (.text written) none = .ok (.text normal) ∧
          normalizeValue (.text normal) none = .ok (.text normal) := by
  intro tabulator written
  have hblank : AllBlank tabulator := by decide
  have hbound : 2748 < Nat.pow 10 Text.Numeral.maxDigits := by decide +kernel
  have hlower : ['A', 'B', 'C'].map Char.toLower =
      List.replicate 0 '0' ++ Nat.toDigits 16 2748 := by decide
  have hfault : Payload.hexFault? written = none := by decide
  obtain ⟨_, hspellings, hnormal⟩ := parse_text_spells
  obtain ⟨hdecimal, hhexadecimal⟩ := hspellings 2748 tabulator [] hblank (by decide)
  exact ⟨hblank, hbound, hdecimal hbound, hlower, hhexadecimal 0 ['A', 'B', 'C'] hlower, hfault,
    hnormal written hfault⟩

end FieldText

end MountainRange
