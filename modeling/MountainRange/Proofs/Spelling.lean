import Mathlib.Data.List.Induction
import Mathlib.Data.List.TakeWhile
import MountainRange.FieldText
set_option autoImplicit false

/-!
# Numbers read from their spellings

A number is spelled in base ten with digits of any script, or behind `0x` in base sixteen
with letters of either case; both may have zeros in front and blanks around.  Every such
text is read as the number it spells.
-/

namespace MountainRange

namespace Text

/-! ## Blanks -/

/-- A text is made up of blanks. -/
def AllBlank (t : Text) : Prop := ∀ c ∈ t, isBlank c = true

instance (t : Text) : Decidable (AllBlank t) := inferInstanceAs (Decidable (∀ c ∈ t, _))

/-- No letter between the space and the next line is white space. -/
theorem isBlank_eq_false {c : Letter} (hlow : 0x20 < c.toNat) (hhigh : c.toNat < 0x85) :
    isBlank c = false := by
  simp only [isBlank, inRanges, rangeOf?, blankRanges, Option.isSome_eq_false_iff,
    Option.isNone_iff_eq_none, List.find?_eq_none]
  simp
  omega

theorem dropWhile_append_of_neg {p : Letter → Bool} {t back : Text} (ht : t ≠ [])
    (h : ∀ c ∈ t, p c = false) : (t ++ back).dropWhile p = t ++ back := by
  obtain ⟨c, t, rfl⟩ := List.exists_cons_of_ne_nil ht
  have hc := h c List.mem_cons_self
  exact List.dropWhile_cons_of_neg (by rw [hc]; decide)

theorem dropWhile_of_neg {p : Letter → Bool} {t : Text} (ht : t ≠ [])
    (h : ∀ c ∈ t, p c = false) : t.dropWhile p = t := by
  rw [← List.append_nil t]
  exact dropWhile_append_of_neg ht h

/-- Trimming takes off blanks and leaves a text without them. -/
theorem trim_append {before t after : Text} (hbefore : AllBlank before) (ht : t ≠ [])
    (hplain : ∀ c ∈ t, isBlank c = false) (hafter : AllBlank after) :
    trim (before ++ t ++ after) = t := by
  have hafter' : ∀ c ∈ after.reverse, isBlank c = true :=
    fun c hc => hafter c (List.mem_reverse.mp hc)
  have hend : t.reverse.dropWhile isBlank = t.reverse :=
    dropWhile_of_neg (mt List.reverse_eq_nil_iff.mp ht)
      fun c hc => hplain c (List.mem_reverse.mp hc)
  rw [trim, List.append_assoc, List.dropWhile_append_of_pos hbefore,
    dropWhile_append_of_neg ht hplain, List.reverse_append, List.dropWhile_append_of_pos hafter',
    hend, List.reverse_reverse]

/-! ## Digits -/

/-- The digits of a number in a base, with some zeros in front. -/
def paddedDigits (base zeros n : Nat) : List Char :=
  List.replicate zeros '0' ++ Nat.toDigits base n

/-- The number that digits come to in a base. -/
def ofDigits (base : Nat) (ds : List Nat) : Nat := ds.foldl (fun acc d => acc * base + d) 0

theorem ofDigits_append_singleton (base : Nat) (ds : List Nat) (d : Nat) :
    ofDigits base (ds ++ [d]) = ofDigits base ds * base + d := by
  rw [ofDigits, List.foldl_append]
  rfl

theorem ofDigits_replicate_zero_append (base zeros : Nat) (ds : List Nat) :
    ofDigits base (List.replicate zeros 0 ++ ds) = ofDigits base ds := by
  induction zeros with
  | zero => rfl
  | succ zeros ih =>
      rw [List.replicate_succ, List.cons_append, ofDigits, List.foldl_cons, Nat.zero_mul]
      exact ih

/-- The digits of a number have values below the base and come to the number. -/
theorem exists_digits {base : Nat} (hbase : 1 < base) (n : Nat) :
    ∃ ds : List Nat, Nat.toDigits base n = ds.map Nat.digitChar ∧ (∀ d ∈ ds, d < base) ∧
      ofDigits base ds = n := by
  induction n using Nat.strongRecOn with
  | ind n ih =>
      by_cases hlt : n < base
      · refine ⟨[n], Nat.toDigits_of_lt_base hlt, ?_, ?_⟩
        · intro d hd
          rw [List.mem_singleton.mp hd]
          exact hlt
        · simp [ofDigits]
      · have hle : base ≤ n := Nat.le_of_not_lt hlt
        have hmod : n % base < base := Nat.mod_lt _ (Nat.lt_trans Nat.zero_lt_one hbase)
        obtain ⟨ds, hdigits, hds, hvalue⟩ := ih (n / base) (Nat.div_lt_self (by omega) hbase)
        refine ⟨ds ++ [n % base], ?_, ?_, ?_⟩
        · rw [Nat.toDigits_of_base_le hbase hle, hdigits, List.map_append]
          rfl
        · intro d hd
          rcases List.mem_append.mp hd with hd | hd
          · exact hds d hd
          · rw [List.mem_singleton.mp hd]
            exact hmod
        · rw [ofDigits_append_singleton, hvalue, Nat.div_add_mod']

/-- Zeros in front change nothing. -/
theorem exists_digits_padded {base : Nat} (hbase : 1 < base) (zeros n : Nat) :
    ∃ ds : List Nat, paddedDigits base zeros n = ds.map Nat.digitChar ∧ ds ≠ [] ∧
      (∀ d ∈ ds, d < base) ∧ ofDigits base ds = n := by
  obtain ⟨ds, hdigits, hds, hvalue⟩ := exists_digits hbase n
  refine ⟨List.replicate zeros 0 ++ ds, ?_, ?_, ?_, ?_⟩
  · rw [paddedDigits, hdigits, List.map_append, List.map_replicate]
    rfl
  · intro h
    rw [(List.append_eq_nil_iff.mp h).2] at hdigits
    exact Nat.toDigits_ne_nil hdigits
  · intro d hd
    rcases List.mem_append.mp hd with hd | hd
    · rw [(List.mem_replicate.mp hd).2]
      exact Nat.lt_trans Nat.zero_lt_one hbase
    · exact hds d hd
  · rw [ofDigits_replicate_zero_append, hvalue]

/-- Digits with values below the base are those of the number that they come to, with some zeros
in front. -/
theorem exists_paddedDigits {base : Nat} (hbase : 1 < base) {ds : List Nat} (hne : ds ≠ [])
    (hlt : ∀ d ∈ ds, d < base) :
    ∃ zeros, ds.map Nat.digitChar = paddedDigits base zeros (ofDigits base ds) := by
  induction ds using List.reverseRecOn with
  | nil => exact absurd rfl hne
  | append_singleton ds d ih =>
      obtain ⟨hds, hd⟩ := List.forall_mem_append.mp hlt
      have hd := hd d List.mem_cons_self
      have hlast : Nat.toDigits base d = [Nat.digitChar d] := Nat.toDigits_of_lt_base hd
      rw [List.map_append, List.map_singleton, ofDigits_append_singleton, ← hlast]
      by_cases hnil : ds = []
      · subst hnil
        exact ⟨0, by simp [paddedDigits, ofDigits]⟩
      · obtain ⟨zeros, hzeros⟩ := ih hnil hds
        rw [hzeros, paddedDigits]
        -- The number in front is zero or starts with a digit; only then it has digits of its own.
        rcases Nat.eq_zero_or_pos (ofDigits base ds) with hzero | hpos
        · have hdigit : Nat.toDigits base 0 = ['0'] :=
            Nat.toDigits_of_lt_base (Nat.lt_trans Nat.zero_lt_one hbase)
          refine ⟨zeros + 1, ?_⟩
          rw [hzero, hdigit, Nat.zero_mul, Nat.zero_add, paddedDigits, List.replicate_succ']
        · refine ⟨zeros, ?_⟩
          rw [List.append_assoc, Nat.toDigits_append_toDigits hbase hpos hd, Nat.mul_comm,
            paddedDigits]

/-! ## Base sixteen -/

/-- A text is a number in base sixteen behind `0x`: zeros in front, letters of either
case. -/
def SpellsHex (n : Nat) (t : Text) : Prop :=
  ∃ (zeros : Nat) (digits : List Char),
    digits.map Char.toLower = paddedDigits 16 zeros n ∧ t = ofChars ('0' :: 'x' :: digits)

theorem toNat_toLower (c : Char) : c.toLower.toNat =
    if 0x41 ≤ c.toNat ∧ c.toNat ≤ 0x5A then c.toNat + 32 else c.toNat := by
  have hcapital : (c.val ≥ 'A'.val ∧ c.val ≤ 'Z'.val) ↔ (0x41 ≤ c.toNat ∧ c.toNat ≤ 0x5A) := by
    rw [ge_iff_le, UInt32.le_iff_toNat_le, UInt32.le_iff_toNat_le]
    exact Iff.rfl
  unfold Char.toLower
  split
  · next h =>
      rw [hcapital] at h
      rw [if_pos h]
      have hdistance : ('a'.val - 'A'.val).toNat = 32 := by decide
      have hc : c.val.toNat ≤ 0x5A := h.2
      show (c.val + ('a'.val - 'A'.val)).toNat = c.val.toNat + 32
      rw [UInt32.toNat_add, hdistance]
      omega
  · next h =>
      rw [hcapital] at h
      rw [if_neg h]

theorem isDigit_char_iff (c : Char) :
    Letter.isDigit (.char c) = true ↔ 0x30 ≤ c.toNat ∧ c.toNat ≤ 0x39 := by
  rw [Letter.isDigit, Letter.isChar, Letter.char?, Option.any_some, Char.isDigit,
    Bool.and_eq_true, decide_eq_true_eq, decide_eq_true_eq, ge_iff_le, UInt32.le_iff_toNat_le,
    UInt32.le_iff_toNat_le]
  exact Iff.rfl

theorem hexDigit?_char (c : Char) : hexDigit? (.char c) =
    if 0x30 ≤ c.toNat ∧ c.toNat ≤ 0x39 then some (c.toNat - 0x30)
    else if 0x61 ≤ c.toNat ∧ c.toNat ≤ 0x66 then some (c.toNat - 0x61 + 10)
    else if 0x41 ≤ c.toNat ∧ c.toNat ≤ 0x46 then some (c.toNat - 0x41 + 10)
    else none := by
  simp only [hexDigit?, isDigit_char_iff]
  rfl

/-- The case of a letter does not change its value. -/
theorem hexDigit?_toLower (c : Char) : hexDigit? (.char c.toLower) = hexDigit? (.char c) := by
  rw [hexDigit?_char, hexDigit?_char, toNat_toLower]
  grind

theorem toNat_of_hexDigit? {c : Letter} {d : Nat} (h : hexDigit? c = some d) :
    0x30 ≤ c.toNat ∧ c.toNat ≤ 0x66 := by
  unfold hexDigit? at h
  split at h
  · next hdigit =>
      rcases c with ch | half
      · obtain ⟨hlow, hhigh⟩ := (isDigit_char_iff ch).mp hdigit
        exact ⟨hlow, Nat.le_trans hhigh (by decide)⟩
      · cases hdigit
  · split at h
    · next hsmall => exact ⟨Nat.le_trans (by decide) hsmall.1, hsmall.2⟩
    · split at h
      · next hcapital =>
          exact ⟨Nat.le_trans (by decide) hcapital.1, Nat.le_trans hcapital.2 (by decide)⟩
      · cases h

theorem isBlank_of_hexDigit? {c : Letter} {d : Nat} (h : hexDigit? c = some d) :
    isBlank c = false := by
  obtain ⟨hlow, hhigh⟩ := toNat_of_hexDigit? h
  exact isBlank_eq_false (by omega) (by omega)

/-- In small form a hexadecimal digit is the digit of its value. -/
theorem toLower_of_hexDigit? {c : Char} {d : Nat} (h : hexDigit? (.char c) = some d) :
    c.toLower = Nat.digitChar d ∧ d < 16 := by
  have hdigit : ∀ e < 16, (Nat.digitChar e).toNat = if e < 10 then 0x30 + e else 0x57 + e := by
    decide
  have hvalue : d < 16 ∧ c.toLower.toNat = if d < 10 then 0x30 + d else 0x57 + d := by
    rw [hexDigit?_char] at h
    rw [toNat_toLower]
    grind
  refine ⟨Char.toNat_inj.mp ?_, hvalue.1⟩
  rw [hvalue.2, hdigit d hvalue.1]

theorem hexDigit?_digitChar {d : Nat} (h : d < 16) :
    hexDigit? (.char (Nat.digitChar d)) = some d := by
  have hall : ∀ e < 16, hexDigit? (.char (Nat.digitChar e)) = some e := by decide
  exact hall d h

variable {n : Nat} {t : Text} {ds : List Nat}

theorem hexValue_eq_ofDigits (h : t.map hexDigit? = ds.map some) :
    hexValue t = ofDigits 16 ds := by
  have hfold : hexValue t = (t.map hexDigit?).foldl (fun acc d => acc * 16 + d.getD 0) 0 := by
    rw [List.foldl_map]
    rfl
  rw [hfold, h, List.foldl_map]
  rfl

theorem exists_mem_of_map_eq {f : Letter → Option Nat} (h : t.map f = ds.map some) {c : Letter}
    (hc : c ∈ t) : ∃ d ∈ ds, f c = some d := by
  have hmem : f c ∈ ds.map some := h ▸ List.mem_map_of_mem hc
  obtain ⟨d, hd, heq⟩ := List.mem_map.mp hmem
  exact ⟨d, hd, heq.symm⟩

theorem all_isHexDigit (h : t.map hexDigit? = ds.map some) : t.all isHexDigit = true := by
  rw [List.all_eq_true]
  intro c hc
  obtain ⟨d, -, hd⟩ := exists_mem_of_map_eq h hc
  rw [isHexDigit, hd]
  rfl

theorem SpellsHex.exists_digits (h : SpellsHex n t) :
    ∃ (digits : Text) (ds : List Nat), t = .char '0' :: .char 'x' :: digits ∧
      digits.map hexDigit? = ds.map some ∧ ds ≠ [] ∧ ofDigits 16 ds = n := by
  obtain ⟨zeros, digits, hlower, rfl⟩ := h
  obtain ⟨ds, hds, hne, hlt, hvalue⟩ := exists_digits_padded (by decide : 1 < 16) zeros n
  refine ⟨ofChars digits, ds, rfl, ?_, hne, hvalue⟩
  calc (ofChars digits).map hexDigit?
      = (digits.map Char.toLower).map fun c => hexDigit? (.char c) := by
        rw [ofChars, List.map_map, List.map_map]
        exact List.map_congr_left fun c _ => (hexDigit?_toLower c).symm
    _ = ds.map fun d => hexDigit? (.char (Nat.digitChar d)) := by
        rw [hlower, hds, List.map_map]
        rfl
    _ = ds.map some := List.map_congr_left fun d hd => hexDigit?_digitChar (hlt d hd)

/-- Hexadecimal digits behind `0x` spell the number that they come to. -/
theorem spellsHex_of_digits {digits : Text} (h : digits.map hexDigit? = ds.map some)
    (hne : ds ≠ []) : SpellsHex (ofDigits 16 ds) (.char '0' :: .char 'x' :: digits) := by
  have hchars : ∃ cs : List Char, digits = ofChars cs ∧
      cs.map Char.toLower = ds.map Nat.digitChar ∧ ∀ d ∈ ds, d < 16 := by
    clear hne
    induction digits generalizing ds with
    | nil =>
        obtain rfl := List.map_eq_nil_iff.mp h.symm
        exact ⟨[], rfl, rfl, List.forall_mem_nil _⟩
    | cons c digits ih =>
        cases ds with
        | nil => cases h
        | cons d ds =>
            obtain ⟨hc, hdigits⟩ := List.cons.inj h
            obtain ⟨cs, rfl, hcs, hlt⟩ := ih hdigits
            rcases c with c | half
            · obtain ⟨hlower, hd⟩ := toLower_of_hexDigit? hc
              refine ⟨c :: cs, rfl, ?_, List.forall_mem_cons.mpr ⟨hd, hlt⟩⟩
              rw [List.map_cons, List.map_cons, hlower, hcs]
            · have hhigh : half.val ≤ 0x66 := (toNat_of_hexDigit? hc).2
              have hlow := half.property.1
              omega
  obtain ⟨cs, rfl, hcs, hlt⟩ := hchars
  obtain ⟨zeros, hzeros⟩ := exists_paddedDigits (by decide : 1 < 16) hne hlt
  exact ⟨zeros, cs, hcs.trans hzeros, rfl⟩

/-! ## Base ten -/

/-- A text is, digit for digit and in whatever scripts, a number in base ten with zeros in
front, and no longer than a numeral may be. -/
def SpellsDecimal (n : Nat) (t : Text) : Prop :=
  ∃ zeros : Nat, (paddedDigits 10 zeros n).length ≤ Numeral.maxDigits ∧
    t.map decimalDigit? = (ofChars (paddedDigits 10 zeros n)).map decimalDigit?

theorem decimalDigit?_digitChar {d : Nat} (h : d < 10) :
    decimalDigit? (.char (Nat.digitChar d)) = some d := by
  have hall : ∀ e < 10, decimalDigit? (.char (Nat.digitChar e)) = some e := by decide
  exact hall d h

theorem SpellsDecimal.exists_digits (h : SpellsDecimal n t) :
    ∃ ds : List Nat, t.map decimalDigit? = ds.map some ∧ (∀ d ∈ ds, d < 10) ∧ ds ≠ [] ∧
      ds.length ≤ Numeral.maxDigits ∧ ofDigits 10 ds = n := by
  obtain ⟨zeros, hlength, hmap⟩ := h
  obtain ⟨ds, hds, hne, hlt, hvalue⟩ := exists_digits_padded (by decide : 1 < 10) zeros n
  rw [hds, List.length_map] at hlength
  refine ⟨ds, ?_, hlt, hne, hlength, hvalue⟩
  rw [hmap, hds, ofChars, List.map_map, List.map_map]
  exact List.map_congr_left fun d hd => decimalDigit?_digitChar (hlt d hd)

/-- No range of decimal digits meets a range of blanks. -/
theorem decimalRanges_disjoint : ∀ r ∈ decimalRanges, ∀ b ∈ blankRanges,
    r.2 < b.1 ∨ b.2 < r.1 := by decide

theorem mem_of_rangeOf? {table : List Range} {c : Letter} {r : Range}
    (h : rangeOf? table c = some r) : r ∈ table ∧ r.1 ≤ c.toNat ∧ c.toNat ≤ r.2 := by
  have hbounds := List.find?_some h
  rw [Bool.and_eq_true, decide_eq_true_eq, decide_eq_true_eq] at hbounds
  exact ⟨List.mem_of_find?_eq_some h, hbounds⟩

/-- A decimal digit is one of the first 128 letters or stands in a range of digits. -/
theorem decimalDigit?_eq_some {c : Letter} {d : Nat} (h : decimalDigit? c = some d) :
    d < 10 ∧ (c = .char (Nat.digitChar d) ∨
      0x80 ≤ c.toNat ∧ ∃ r ∈ decimalRanges, r.1 ≤ c.toNat ∧ c.toNat ≤ r.2) := by
  unfold decimalDigit? at h
  split at h
  · split at h
    · next hdigit =>
        rcases c with ch | half
        · obtain ⟨hlow, hhigh⟩ := (isDigit_char_iff ch).mp hdigit
          have hd : ch.toNat - 0x30 = d := Option.some.inj h
          have hlt : d < 10 := by omega
          refine ⟨hlt, .inl (congrArg Letter.char (Char.toNat_inj.mp ?_))⟩
          rw [Nat.toNat_digitChar_of_lt_ten hlt]
          omega
        · cases hdigit
    · cases h
  · next hbeyond =>
      obtain ⟨r, hr, hd⟩ := Option.map_eq_some_iff.mp h
      have hlt : d < 10 := hd ▸ Nat.mod_lt _ (by decide)
      exact ⟨hlt, .inr ⟨Nat.le_of_not_lt hbeyond, r, mem_of_rangeOf? hr⟩⟩

theorem isBlank_of_decimalDigit? {c : Letter} {d : Nat} (h : decimalDigit? c = some d) :
    isBlank c = false := by
  obtain ⟨hd, rfl | ⟨-, r, hr, hlow, hhigh⟩⟩ := decimalDigit?_eq_some h
  · have hall : ∀ e < 10, isBlank (.char (Nat.digitChar e)) = false := by decide
    exact hall d hd
  · rw [isBlank, inRanges, Option.isSome_eq_false_iff, Option.isNone_iff_eq_none,
      Option.eq_none_iff_forall_ne_some]
    intro b hb
    obtain ⟨hmem, hfrom, hto⟩ := mem_of_rangeOf? hb
    have hapart := decimalRanges_disjoint r hr b hmem
    omega

/-- The reader sees a digit of any script as the plain digit of its value. -/
theorem plain_of_decimalDigit? {c : Letter} {d : Nat} (h : decimalDigit? c = some d) :
    Numeral.plain c = .char (Nat.digitChar d) := by
  have hblank := isBlank_of_decimalDigit? h
  unfold Numeral.plain
  split
  · next hlow =>
      obtain ⟨-, hc | ⟨hbeyond, -⟩⟩ := decimalDigit?_eq_some h
      · exact hc
      · omega
  · rw [if_neg (by rw [hblank]; decide), h]

namespace Numeral

theorem map_plain (h : t.map decimalDigit? = ds.map some) :
    t.map plain = ds.map fun d => .char (Nat.digitChar d) := by
  have hplain : ∀ c ∈ t, plain c = .char (Nat.digitChar ((decimalDigit? c).getD 0)) := by
    intro c hc
    obtain ⟨d, -, hd⟩ := exists_mem_of_map_eq h hc
    rw [plain_of_decimalDigit? hd, hd]
    rfl
  calc t.map plain
      = (t.map decimalDigit?).map fun d => .char (Nat.digitChar (d.getD 0)) := by
        rw [List.map_map]
        exact List.map_congr_left hplain
    _ = ds.map fun d => .char (Nat.digitChar d) := by
        rw [h, List.map_map]
        rfl

/-- A run of digits is well grouped. -/
theorem wellGrouped_digits {run : Text} (h : ∀ c ∈ run, c.isDigit = true) (afterDigit : Bool) :
    wellGrouped afterDigit run = (afterDigit || !run.isEmpty) := by
  induction run generalizing afterDigit with
  | nil => simp [wellGrouped]
  | cons c run ih =>
      have hc := h c List.mem_cons_self
      have hrest : ∀ d ∈ run, d.isDigit = true := fun d hd => h d (List.mem_cons_of_mem _ hd)
      unfold wellGrouped
      split
      · next heq => cases heq
      · next heq =>
          cases heq
          cases hc
      · next heq =>
          cases heq
          rw [ih hrest]
          simp

theorem splitSign_digits {run : Text} (h : ∀ c ∈ run, c.isDigit = true) :
    splitSign run = (false, run) := by
  unfold splitSign
  split
  · cases h _ List.mem_cons_self
  · cases h _ List.mem_cons_self
  · rfl

theorem isPlainBlank_of_isDigit {c : Letter} (h : c.isDigit = true) :
    isPlainBlank c = false := by
  rcases c with ch | half
  · obtain ⟨hlow, hhigh⟩ := (isDigit_char_iff ch).mp h
    have hspace : (Letter.char ch) ≠ .char ' ' := by
      intro heq
      cases heq
      cases h
    rw [isPlainBlank, decide_eq_false hspace, Bool.or_false, Bool.and_eq_false_iff]
    have hbehind : ¬ch.toNat ≤ 13 := by omega
    exact .inr (decide_eq_false hbehind)
  · cases h

theorem isRunChar_of_isDigit {c : Letter} (h : c.isDigit = true) : isRunChar c = true := by
  rw [isRunChar, h, Bool.true_or]

theorem valueOf_digits (h : ∀ d ∈ ds, d < 10) :
    valueOf (ds.map fun d => .char (Nat.digitChar d)) = ofDigits 10 ds := by
  have hvalues : (ds.map fun d => (Nat.digitChar d).toNat - 0x30) = ds := by
    rw [List.map_congr_left fun d hd => by rw [Nat.toNat_digitChar_of_lt_ten (h d hd)]]
    simp
  calc valueOf (ds.map fun d => .char (Nat.digitChar d))
      = ofDigits 10 (ds.map fun d => (Nat.digitChar d).toNat - 0x30) := by
        rw [valueOf, ofDigits, List.foldl_map, List.foldl_map]
        rfl
    _ = ofDigits 10 ds := by rw [hvalues]

end Numeral

/-- Digits of any script are read as the number they spell, unless they are too many. -/
theorem readInt_digits (h : t.map decimalDigit? = ds.map some) (hlt : ∀ d ∈ ds, d < 10)
    (hne : ds ≠ []) : readInt t =
      if Numeral.maxDigits < ds.length then .error (.tooManyDigits ds.length)
      else .ok (ofDigits 10 ds : Nat) := by
  have hvalue := Numeral.valueOf_digits hlt
  have hdigits : ∀ c ∈ ds.map fun d => Letter.char (Nat.digitChar d), c.isDigit = true := by
    intro c hc
    obtain ⟨d, hd, rfl⟩ := List.mem_map.mp hc
    have hall : ∀ e < 10, Letter.isDigit (.char (Nat.digitChar e)) = true := by decide
    exact hall d (hlt d hd)
  have hcount : (ds.map fun d => Letter.char (Nat.digitChar d)).length = ds.length :=
    List.length_map _
  have hsome : (ds.map fun d => Letter.char (Nat.digitChar d)) ≠ [] :=
    fun hnil => hne (List.map_eq_nil_iff.mp hnil)
  unfold readInt
  rw [Numeral.map_plain h]
  generalize (ds.map fun d => Letter.char (Nat.digitChar d)) = run at *
  have hblank : run.dropWhile isPlainBlank = run :=
    dropWhile_of_neg hsome fun c hc => Numeral.isPlainBlank_of_isDigit (hdigits c hc)
  have hrun : ∀ c ∈ run, Numeral.isRunChar c = true :=
    fun c hc => Numeral.isRunChar_of_isDigit (hdigits c hc)
  rw [hblank, Numeral.splitSign_digits hdigits]
  dsimp only
  rw [List.takeWhile_eq_self_iff.mpr hrun, List.dropWhile_eq_nil_iff.mpr hrun,
    List.filter_eq_self.mpr hdigits, Numeral.wellGrouped_digits hdigits, if_neg (by simp [hsome]),
    hcount, hvalue]
  rfl

end Text

/-! ## Values -/

namespace FieldText

open Text

theorem afterMark_ofDecimal {t : Text} {ds : List Nat}
    (h : t.map decimalDigit? = ds.map some) : afterMark t = none := by
  unfold afterMark
  split
  · obtain ⟨d, -, hd⟩ := exists_mem_of_map_eq h (List.mem_cons_of_mem _ List.mem_cons_self)
    cases hd
  · rfl

theorem isDigit_of_decimal {t : Text} {ds : List Nat}
    (h : t.map decimalDigit? = ds.map some) : t.all Text.isDigit = true := by
  rw [List.all_eq_true]
  intro c hc
  obtain ⟨d, -, hd⟩ := exists_mem_of_map_eq h hc
  rw [Text.isDigit, hd]
  rfl

theorem hexDigit?_smallLetter (c : Letter) : hexDigit? (smallLetter c) = hexDigit? c := by
  cases c with
  | char c => exact hexDigit?_toLower c
  | surrogate s => rfl

/-- Small letters and an even number of digits do not change what digits spell. -/
theorem normalDigits_of_digits {digits : Text} {ds : List Nat}
    (h : digits.map hexDigit? = ds.map some) (hne : ds ≠ []) :
    ∃ normal, normalDigits digits = .ok normal ∧ hexValue normal = ofDigits 16 ds := by
  have hhex : isHex (.char '0' :: .char 'x' :: digits) = true := by
    cases digits with
    | nil => exact absurd (List.map_eq_nil_iff.mp h.symm) hne
    | cons c digits => exact all_isHexDigit h
  refine ⟨(evenDigits digits).map smallLetter, if_pos hhex, ?_⟩
  have hsmall : ((evenDigits digits).map smallLetter).map hexDigit? =
      (evenDigits digits).map hexDigit? := by
    rw [List.map_map]
    exact List.map_congr_left fun c _ => hexDigit?_smallLetter c
  unfold evenDigits at hsmall ⊢
  split at hsmall
  · next hodd =>
      have hpadded : (('0' : Letter) :: digits).map hexDigit? = (0 :: ds).map some := by
        rw [List.map_cons, h]
        rfl
      rw [hpadded] at hsmall
      rw [if_pos hodd, hexValue_eq_ofDigits hsmall]
      exact ofDigits_replicate_zero_append 16 1 ds
  · next heven =>
      rw [if_neg heven, hexValue_eq_ofDigits (hsmall.trans h)]

/-- A spelling of a number: the number itself, or a text of its digits in base ten or
sixteen between blanks. -/
inductive Spells (n : Nat) : Value → Prop where
  | integer : Spells n (.int n)
  | decimal {before t after : Text} (hbefore : AllBlank before) (ht : SpellsDecimal n t)
      (hafter : AllBlank after) : Spells n (.text (before ++ t ++ after))
  | hexadecimal {before t after : Text} (hbefore : AllBlank before) (ht : SpellsHex n t)
      (hafter : AllBlank after) : Spells n (.text (before ++ t ++ after))

/-- Digits between blanks are read as a numeral. -/
theorem parseText_decimal {before t after : Text} {ds : List Nat} (hbefore : AllBlank before)
    (hds : t.map decimalDigit? = ds.map some) (hne : ds ≠ []) (hafter : AllBlank after) :
    parseText (before ++ t ++ after) = (readInt t).mapError .numeral := by
  have hsome : t ≠ [] := by
    rintro rfl
    exact hne (List.map_eq_nil_iff.mp hds.symm)
  have hplain : ∀ c ∈ t, isBlank c = false := by
    intro c hc
    obtain ⟨d, -, hd⟩ := exists_mem_of_map_eq hds hc
    exact isBlank_of_decimalDigit? hd
  have hdigits : ¬((t.isEmpty || !t.all Text.isDigit) = true) := by
    simp [hsome, isDigit_of_decimal hds]
  unfold parseText
  dsimp only
  rw [trim_append hbefore hsome hplain hafter, afterMark_ofDecimal hds]
  dsimp only
  rw [if_neg hdigits]

/-- Every spelling of a number is read as the number. -/
theorem parse_of_spells {n : Nat} {v : Value} (h : Spells n v) : parse v = .ok (n : Int) := by
  cases h with
  | integer => rfl
  | @decimal before t after hbefore ht hafter =>
      obtain ⟨ds, hds, hlt, hne, hlength, hvalue⟩ := ht.exists_digits
      show parseText (before ++ t ++ after) = _
      rw [parseText_decimal hbefore hds hne hafter, readInt_digits hds hlt hne,
        if_neg (Nat.not_lt.mpr hlength), hvalue]
      rfl
  | @hexadecimal before t after hbefore ht hafter =>
      obtain ⟨digits, ds, rfl, hds, hne, hvalue⟩ := ht.exists_digits
      obtain ⟨normal, hnormal, hnormalValue⟩ := normalDigits_of_digits hds hne
      have hplain : ∀ c ∈ Letter.char '0' :: .char 'x' :: digits, isBlank c = false := by
        intro c hc
        rcases List.mem_cons.mp hc with rfl | hc
        · decide
        rcases List.mem_cons.mp hc with rfl | hc
        · decide
        obtain ⟨d, -, hd⟩ := exists_mem_of_map_eq hds hc
        exact isBlank_of_hexDigit? hd
      show parseText (before ++ (.char '0' :: .char 'x' :: digits) ++ after) = _
      unfold parseText
      dsimp only
      rw [trim_append hbefore (List.cons_ne_nil _ _) hplain hafter]
      show (normalDigits digits).map _ = _
      rw [hnormal, ← hvalue, ← hnormalValue]
      rfl

end FieldText

end MountainRange
