import MountainRange.Proofs.JsonNumbers
import MountainRange.Proofs.Refusals
set_option autoImplicit false

/-!
# Slots that are written as text

An integer written in base ten is read as itself if it is a natural; a negative one is no
number at all, and no slot of a request either.  So integers may be written as text wherever
slots are taken: the same reports come of them.
-/

namespace MountainRange

namespace FieldText

open Text.Numeral (maxDigits)

theorem pow_maxDigits : 10 ^ maxDigits = Nat.pow 10 maxDigits := by
  have hpow : ∀ k, 10 ^ k = Nat.pow 10 k := fun _ => rfl
  exact hpow maxDigits

theorem toString_natural (n : Nat) :
    Text.of (toString (n : Int)) = Text.ofChars (Nat.toDigits 10 n) := by
  have hsign : Json.minus ((n : Int) < 0) = [] := by simp [Json.minus]
  rw [Json.toString_eq, hsign]
  rfl

/-- The decimal of a natural is made of digits that spell it. -/
theorem exists_decimalDigits (n : Nat) : ∃ ds : List Nat,
    (Text.ofChars (Nat.toDigits 10 n)).map Text.decimalDigit? = ds.map some ∧ ds ≠ [] ∧
      (∀ d ∈ ds, d < 10) ∧ Text.ofDigits 10 ds = n ∧ ds.length = (Nat.toDigits 10 n).length := by
  obtain ⟨ds, hds, hlt, hvalue⟩ := Text.exists_digits (by decide : 1 < 10) n
  refine ⟨ds, ?_, fun hnil => Nat.toDigits_ne_nil (hds.trans (congrArg _ hnil)), hlt, hvalue, ?_⟩
  · rw [hds, Text.ofChars, List.map_map, List.map_map]
    exact List.map_congr_left fun d hd => Text.decimalDigit?_digitChar (hlt d hd)
  · rw [hds, List.length_map]

/-- A natural has no more digits than may be read exactly if it lies below the bound. -/
theorem length_toDigits_le_iff {n : Nat} :
    (Nat.toDigits 10 n).length ≤ maxDigits ↔ n < Nat.pow 10 maxDigits := by
  generalize hdigits : maxDigits = digits
  have hpos : 0 < digits := hdigits ▸ (by decide : 0 < maxDigits)
  exact Nat.length_toDigits_le_iff (by decide) hpos

/-- The decimal of a natural spells the natural, unless it is too long. -/
theorem readInt_toString (n : Nat) : Text.readInt (Text.of (toString (n : Int))) =
    if n < Nat.pow 10 maxDigits then .ok (n : Int)
    else .error (.tooManyDigits (Nat.toDigits 10 n).length) := by
  obtain ⟨ds, hdecimal, hne, hlt, hvalue, hlength⟩ := exists_decimalDigits n
  have hlong : maxDigits < ds.length ↔ ¬n < Nat.pow 10 maxDigits := by
    rw [hlength, ← Nat.not_le]
    exact not_congr length_toDigits_le_iff
  rw [toString_natural, Text.readInt_digits hdecimal hlt hne, hvalue, ← hlength]
  by_cases hn : n < Nat.pow 10 maxDigits
  · rw [if_pos hn, if_neg (mt hlong.mp (not_not_intro hn))]
  · rw [if_neg hn, if_pos (hlong.mpr hn)]

/-- The decimal of a natural is read as the natural, unless it is too long. -/
theorem parse_toString (n : Nat) : parse (.text (Text.of (toString (n : Int)))) =
    if n < Nat.pow 10 maxDigits then .ok (n : Int)
    else .error (.numeral (.tooManyDigits (Nat.toDigits 10 n).length)) := by
  obtain ⟨ds, hdecimal, hne, -⟩ := exists_decimalDigits n
  have hparse : parseText (Text.of (toString (n : Int))) =
      (Text.readInt (Text.of (toString (n : Int)))).mapError .numeral := by
    have hread := @parseText_decimal [] _ [] ds (List.forall_mem_nil _) hdecimal hne
      (List.forall_mem_nil _)
    rwa [List.nil_append, List.append_nil, ← toString_natural] at hread
  show parseText (Text.of (toString (n : Int))) = _
  rw [hparse, readInt_toString]
  split <;> rfl

/-- The decimal of an integer below zero starts with its sign. -/
theorem toString_negative {n : Int} (hn : n < 0) :
    Text.of (toString n) = .char '-' :: Text.ofChars (Nat.toDigits 10 n.natAbs) := by
  have hsign : Json.minus (n < 0) = ['-'] := by simp [Json.minus, hn]
  rw [Json.toString_eq, hsign]
  rfl

/-- A sign in front makes a decimal no number. -/
theorem parse_toString_neg {n : Int} (hn : n < 0) :
    parse (.text (Text.of (toString n))) = .error (.notDigits (Text.of (toString n))) := by
  have hwritten := toString_negative hn
  have hplain : ∀ c ∈ Text.of (toString n), Text.isBlank c = false := by
    intro c hc
    rw [hwritten] at hc
    rcases List.mem_cons.mp hc with rfl | hc
    · decide
    · obtain ⟨d, hd, rfl⟩ := List.mem_map.mp hc
      obtain ⟨hlow, hhigh⟩ :=
        (Text.isDigit_char_iff d).mp (Text.Numeral.isDigit_of_mem_toDigits d hd)
      exact Text.isBlank_eq_false (show 0x20 < d.toNat by omega) (show d.toNat < 0x85 by omega)
  have htrim : Text.trim (Text.of (toString n)) = Text.of (toString n) := by
    have htrimmed := @Text.trim_append [] _ [] (List.forall_mem_nil _)
      (by rw [hwritten]; exact List.cons_ne_nil _ _) hplain (List.forall_mem_nil _)
    rwa [List.nil_append, List.append_nil] at htrimmed
  show parseText (Text.of (toString n)) = _
  unfold parseText
  dsimp only
  rw [htrim, hwritten]
  rfl

end FieldText

/-- Items are read as a list exactly if each is read as the entry at its place. -/
theorem mapM_eq_ok_iff_forall₂ {ε α β : Type} {f : α → Except ε β} {items : List α}
    {entries : List β} :
    items.mapM f = .ok entries ↔ List.Forall₂ (fun x b => f x = .ok b) items entries := by
  refine ⟨fun h => ?_, mapM_eq_ok_of_forall₂⟩
  induction items generalizing entries with
  | nil =>
      cases h
      exact .nil
  | cons x items ih =>
      rw [List.mapM_cons] at h
      obtain ⟨b, hb, h⟩ := bind_eq_ok_iff.mp h
      obtain ⟨bs, hbs, h⟩ := bind_eq_ok_iff.mp h
      cases h
      exact .cons hb (ih hbs)

/-! ## Slots that are told in two ways -/

/-- A slot and the same slot as it may be told instead: an integer, or its decimal. -/
inductive ToldAs : Value → Value → Prop where
  | same (v : Value) : ToldAs v v
  | decimal {n : Int} (hn : n.natAbs < Nat.pow 10 Text.Numeral.maxDigits) :
      ToldAs (.int n) (.text (Text.of (toString n)))

/-- Both tell the same natural. -/
theorem ToldAs.parse_eq_natural_iff {v w : Value} (h : ToldAs v w) (n : Nat) :
    FieldText.parse v = .ok n ↔ FieldText.parse w = .ok n := by
  cases h with
  | same => exact Iff.rfl
  | @decimal k hk =>
      have hv : FieldText.parse (.int k) = .ok k := rfl
      rw [hv]
      rcases Int.lt_or_le k 0 with hneg | hnat
      · rw [FieldText.parse_toString_neg hneg]
        refine ⟨fun heq => ?_, nofun⟩
        have hk : k = n := Except.ok.inj heq
        omega
      · obtain ⟨m, rfl⟩ := Int.eq_ofNat_of_zero_le hnat
        have hm : m < Nat.pow 10 Text.Numeral.maxDigits := hk
        rw [FieldText.parse_toString, if_pos hm]

namespace Service

variable {items others : List Value}

/-- Slots are reported on as the request that is encoded to them. -/
theorem verifySlots_eq_ok_iff {options : Options} {result : Report} :
    verifySlots options items = .ok result ↔
      ∃ r, SlotsEncode items r ∧ report options r none = .ok result := by
  constructor
  · intro h
    obtain ⟨numbers, hnumbers, h⟩ := bind_eq_ok_iff.mp h
    obtain ⟨r, hr, hreport⟩ := bind_eq_ok_iff.mp h
    obtain ⟨hfits, rfl⟩ := Encoding.decode_integers_eq_ok_iff.mp (mapError_eq_ok hr)
    exact ⟨r, ⟨hfits, mapError_eq_ok hnumbers⟩, hreport⟩
  · rintro ⟨r, hr, hreport⟩
    rw [verifySlots_of_mapM options hr.2, hr.decode]
    exact hreport

/-- Told in another way, slots are still those of the same request: these are naturals. -/
theorem slotsEncode_congr (h : List.Forall₂ ToldAs items others) (r : Request) :
    SlotsEncode items r ↔ SlotsEncode others r := by
  refine and_congr_right fun _ => ?_
  rw [mapM_eq_ok_iff_forall₂, mapM_eq_ok_iff_forall₂, List.forall₂_map_right_iff,
    List.forall₂_map_right_iff]
  generalize Encoding.encode r = numbers
  induction h generalizing numbers with
  | nil => exact Iff.rfl
  | cons hslot _ ih =>
      cases numbers with
      | nil => exact ⟨nofun, nofun⟩
      | cons n numbers =>
          rw [List.forall₂_cons, List.forall₂_cons, ih numbers]
          exact and_congr_left fun _ => hslot.parse_eq_natural_iff n

/-- So the same report comes of them, or none. -/
theorem verifySlots_eq_ok_congr {options : Options} {result : Report}
    (h : List.Forall₂ ToldAs items others) :
    verifySlots options items = .ok result ↔ verifySlots options others = .ok result := by
  rw [verifySlots_eq_ok_iff, verifySlots_eq_ok_iff]
  exact exists_congr fun r => and_congr_left fun _ => slotsEncode_congr h r

end Service

end MountainRange
