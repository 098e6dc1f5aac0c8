import Mathlib.Data.List.TakeWhile
import MountainRange.Json.Reader
import MountainRange.Json.Writer
import MountainRange.Proofs.Doubles
import MountainRange.Proofs.Spelling
set_option autoImplicit false

/-!
# Numbers that are written read back

An integer is written with its digits, a float with a point or an exponent.  The reader takes
a number as far as it goes, so what follows it must not belong to one.
-/

namespace MountainRange

namespace Text.Numeral

/-! ## Digits -/

/-- A text is made up of decimal digits. -/
def AllDigits (t : Text) : Prop := ∀ c ∈ t, c.isDigit = true

theorem allDigits_append {s t : Text} (hs : AllDigits s) (ht : AllDigits t) :
    AllDigits (s ++ t) := List.forall_mem_append.mpr ⟨hs, ht⟩

/-- Some zeros in a row. -/
def zeros (n : Nat) : Text := List.replicate n '0'

@[simp] theorem length_zeros (n : Nat) : (zeros n).length = n := List.length_replicate

theorem ofChars_replicate_zero (n : Nat) : ofChars (List.replicate n '0') = zeros n :=
  List.map_replicate

theorem allDigits_zeros (n : Nat) : AllDigits (zeros n) := by
  intro c hc
  rw [List.eq_of_mem_replicate hc]
  rfl

theorem allDigits_ofChars {cs : List Char} (h : ∀ c ∈ cs, c.isDigit = true) :
    AllDigits (ofChars cs) := by
  intro c hc
  obtain ⟨d, hd, rfl⟩ := List.mem_map.mp hc
  exact h d hd

theorem isDigit_of_mem_toDigits {n : Nat} : ∀ c ∈ Nat.toDigits 10 n, c.isDigit = true :=
  fun _ hc => Nat.isDigit_of_mem_toDigits (by decide) (by decide) hc

theorem valueOf_append (s t : Text) :
    valueOf (s ++ t) = valueOf s * 10 ^ t.length + valueOf t := by
  have hfrom : ∀ n : Nat, t.foldl (fun acc c => acc * 10 + (c.toNat - 0x30)) n =
      n * 10 ^ t.length + valueOf t := by
    unfold valueOf
    induction t with
    | nil => simp
    | cons c t ih =>
        intro n
        rw [List.foldl_cons, ih, List.foldl_cons, ih (0 * 10 + _), List.length_cons, pow_succ]
        ring
  rw [valueOf, List.foldl_append]
  exact hfrom _

theorem valueOf_zeros_append (n : Nat) (t : Text) : valueOf (zeros n ++ t) = valueOf t := by
  induction n with
  | zero => rfl
  | succ n ih =>
      have hzero : valueOf ['0'] = 0 := rfl
      rw [zeros, List.replicate_succ, List.cons_append, ← List.singleton_append, valueOf_append,
        hzero, Nat.zero_mul, Nat.zero_add]
      exact ih

theorem valueOf_append_zeros (t : Text) (n : Nat) :
    valueOf (t ++ zeros n) = valueOf t * 10 ^ n := by
  have hzeros := valueOf_zeros_append n []
  rw [List.append_nil] at hzeros
  rw [valueOf_append, hzeros, length_zeros]
  rfl

theorem valueOf_toDigits (n : Nat) : valueOf (ofChars (Nat.toDigits 10 n)) = n := by
  obtain ⟨ds, hdigits, hlt, hvalue⟩ := exists_digits (by decide : 1 < 10) n
  have hletters : ofChars (ds.map Nat.digitChar) = ds.map fun d => .char (Nat.digitChar d) := by
    rw [ofChars, List.map_map]
    rfl
  rw [hdigits, hletters, valueOf_digits hlt, hvalue]

theorem length_toDigits_le {n k : Nat} (hk : 0 < k) (h : n < Nat.pow 10 k) :
    (Nat.toDigits 10 n).length ≤ k := (Nat.length_toDigits_le_iff (by decide) hk).mpr h

theorem ten_le_pow_maxDigits : 10 ≤ Nat.pow 10 maxDigits := by
  have hpow : ∀ k, k ≠ 0 → 10 ≤ Nat.pow 10 k := fun _ hk => Nat.le_self_pow hk 10
  exact hpow _ (by decide)

/-- The digits of a number start with a zero only if it is zero. -/
theorem head?_toDigits_ne {n : Nat} (hn : n ≠ 0) : (Nat.toDigits 10 n).head? ≠ some '0' := by
  induction n using Nat.strongRecOn with
  | ind n ih =>
      by_cases hlt : n < 10
      · have hall : ∀ d < 10, d ≠ 0 → Nat.digitChar d ≠ '0' := by decide
        rw [Nat.toDigits_of_lt_base hlt]
        simpa using hall n hlt hn
      · have hle : 10 ≤ n := Nat.le_of_not_lt hlt
        rw [Nat.toDigits_of_base_le (by decide) hle,
          List.head?_append_of_ne_nil _ Nat.toDigits_ne_nil]
        exact ih (n / 10) (by omega) (by omega)

end Text.Numeral

namespace Json

open Text.Numeral

/-! ## Parts of a number -/

/-- Nothing that could belong to a number stands in front. -/
def EndsNumber (rest : Text) : Prop :=
  ∀ c ∈ rest.head?, c.isDigit = false ∧ c ≠ '.' ∧ c ≠ 'e' ∧ c ≠ 'E'

/-- No digit stands in front. -/
def NoDigit (rest : Text) : Prop := ∀ c ∈ rest.head?, c.isDigit = false

variable {digits rest : Text}

theorem EndsNumber.noDigit (h : EndsNumber rest) : NoDigit rest := fun c hc => (h c hc).1

theorem splitDigits_append (hdigits : AllDigits digits) (hrest : NoDigit rest) :
    splitDigits (digits ++ rest) = (digits, rest) := by
  rw [splitDigits, List.takeWhile_append_of_pos hdigits, List.dropWhile_append_of_pos hdigits]
  cases rest with
  | nil => simp
  | cons c rest =>
      have hc := hrest c rfl
      simp [hc]

theorem splitWhole_append (hdigits : AllDigits digits) (hne : digits ≠ [])
    (hhead : digits.head? ≠ some (.char '0') ∨ digits = ['0']) (hrest : NoDigit rest) :
    splitWhole (digits ++ rest) = (digits, rest) := by
  rcases hhead with hhead | rfl
  · obtain ⟨c, digits, rfl⟩ := List.exists_cons_of_ne_nil hne
    have hc : c ≠ '0' := fun hc => hhead (congrArg some hc)
    rw [List.cons_append, splitWhole]
    · exact splitDigits_append hdigits hrest
    · intro _ heq
      exact hc (List.cons.inj heq).1
  · rfl

theorem splitFraction_of_endsNumber (h : EndsNumber rest) : splitFraction rest = ([], rest) := by
  cases rest with
  | nil => rfl
  | cons c rest =>
      rw [splitFraction]
      intro _ heq
      exact (h c rfl).2.1 (List.cons.inj heq).1

theorem splitFraction_point (hdigits : AllDigits digits) (hne : digits ≠ [])
    (hrest : NoDigit rest) : splitFraction (.char '.' :: (digits ++ rest)) = (digits, rest) := by
  rw [splitFraction, splitDigits_append hdigits hrest]
  split
  · next heq =>
      cases heq
      exact absurd rfl hne
  · rfl

theorem splitExponent_of_endsNumber (h : EndsNumber rest) : splitExponent rest = (none, rest) := by
  cases rest with
  | nil => rfl
  | cons c rest =>
      obtain ⟨-, -, hsmall, hcapital⟩ := h c rfl
      rw [splitExponent, if_neg (not_or.mpr ⟨hsmall, hcapital⟩)]

/-- The sign of an exponent. -/
def exponentSign (negative : Bool) : Letter := .char (if negative then '-' else '+')

theorem splitExponent_sign (negative : Bool) (hdigits : AllDigits digits) (hne : digits ≠ [])
    (hrest : NoDigit rest) :
    splitExponent (.char 'e' :: exponentSign negative :: (digits ++ rest)) =
      (some (Number.Double.signed negative (valueOf digits)), rest) := by
  have hsign : splitSign (exponentSign negative :: (digits ++ rest)) =
      (negative, digits ++ rest) := by
    cases negative <;> rfl
  rw [splitExponent, if_pos (.inl rfl), hsign]
  dsimp only
  rw [splitDigits_append hdigits hrest]
  split
  · next heq =>
      cases heq
      exact absurd rfl hne
  · next heq =>
      cases heq
      rfl

/-! ## Whole numbers and floats -/

/-- The sign of a number. -/
def minus (negative : Bool) : Text := if negative then ['-'] else []

theorem splitMinus_minus (negative : Bool) {body : Text}
    (h : ∀ c ∈ body.head?, c.isDigit = true) :
    splitMinus (minus negative ++ body) = (negative, body) := by
  cases negative with
  | true => rfl
  | false =>
      show splitMinus body = _
      cases body with
      | nil => rfl
      | cons c body =>
          rw [splitMinus]
          intro _ heq
          have hc := h c rfl
          rw [(List.cons.inj heq).1] at hc
          cases hc

variable {negative : Bool} {whole fraction body behind : Text}

/-- A number with digits alone is an integer. -/
theorem readNumber_integer (hwhole : AllDigits whole) (hne : whole ≠ [])
    (hhead : whole.head? ≠ some (.char '0') ∨ whole = ['0']) (hrest : EndsNumber rest) :
    readNumber (minus negative ++ (whole ++ rest)) = (integer? negative whole).map (·, rest) := by
  have hfirst : ∀ c ∈ (whole ++ rest).head?, c.isDigit = true := by
    rw [List.head?_append_of_ne_nil _ hne]
    exact fun c hc => hwhole c (List.mem_of_mem_head? hc)
  unfold readNumber
  rw [splitMinus_minus negative hfirst]
  dsimp only
  rw [splitWhole_append hwhole hne hhead hrest.noDigit]
  split
  · next heq =>
      cases heq
      exact absurd rfl hne
  · next heq =>
      cases heq
      rw [splitFraction_of_endsNumber hrest]
      dsimp only
      rw [splitExponent_of_endsNumber hrest]

/-- A number with a fraction or an exponent is a float. -/
theorem readNumber_float {exponent : Option Int} (hwhole : AllDigits whole) (hne : whole ≠ [])
    (hhead : whole.head? ≠ some (.char '0') ∨ whole = ['0']) (hbody : NoDigit body)
    (hfraction : splitFraction body = (fraction, behind))
    (hexponent : splitExponent behind = (exponent, rest))
    (hfloat : fraction ≠ [] ∨ exponent ≠ none) :
    readNumber (minus negative ++ (whole ++ body)) =
      .ok (.float (.ofDecimal negative (valueOf (whole ++ fraction))
        (exponent.getD 0 - fraction.length)), rest) := by
  have hfirst : ∀ c ∈ (whole ++ body).head?, c.isDigit = true := by
    rw [List.head?_append_of_ne_nil _ hne]
    exact fun c hc => hwhole c (List.mem_of_mem_head? hc)
  unfold readNumber
  rw [splitMinus_minus negative hfirst]
  dsimp only
  rw [splitWhole_append hwhole hne hhead hbody]
  split
  · next heq =>
      cases heq
      exact absurd rfl hne
  · next heq =>
      cases heq
      rw [hfraction]
      dsimp only
      rw [hexponent]
      dsimp only
      split
      · simp at hfloat
      · rfl

/-! ## What is written -/

/-- The digits of a number, which start with a zero only if it is zero. -/
structure IsNumeral (digits : List Char) : Prop where
  ne_nil : digits ≠ []
  isDigit : ∀ c ∈ digits, c.isDigit = true
  head : digits.head? ≠ some '0' ∨ digits = ['0']

theorem isNumeral_toDigits (n : Nat) : IsNumeral (Nat.toDigits 10 n) where
  ne_nil := Nat.toDigits_ne_nil
  isDigit := isDigit_of_mem_toDigits
  head := by
    rcases Nat.eq_zero_or_pos n with rfl | hn
    · exact .inr rfl
    · exact .inl (head?_toDigits_ne (Nat.ne_of_gt hn))

variable {cs : List Char}

theorem head?_ofChars_ne {c : Char} (h : cs.head? ≠ some c) :
    (Text.ofChars cs).head? ≠ some (.char c) := by
  intro hc
  rw [Text.ofChars, List.head?_map, Option.map_eq_some_iff] at hc
  obtain ⟨d, hd, heq⟩ := hc
  rw [hd, Letter.char.inj heq] at h
  exact h rfl

namespace IsNumeral

theorem allDigits (h : IsNumeral cs) : AllDigits (Text.ofChars cs) := allDigits_ofChars h.isDigit

theorem ofChars_ne_nil (h : IsNumeral cs) : Text.ofChars cs ≠ [] :=
  mt List.map_eq_nil_iff.mp h.ne_nil

theorem head_ofChars (h : IsNumeral cs) :
    (Text.ofChars cs).head? ≠ some (.char '0') ∨ Text.ofChars cs = ['0'] := by
  rcases h.head with hhead | rfl
  · exact .inl (head?_ofChars_ne hhead)
  · exact .inr rfl

end IsNumeral

theorem toString_eq (n : Int) :
    Text.of (toString n) = minus (n < 0) ++ Text.ofChars (Nat.toDigits 10 n.natAbs) := by
  cases n with
  | ofNat n =>
      have hsign : minus (Int.ofNat n < 0) = [] := by simp [minus]
      rw [hsign]
      exact congrArg Text.ofChars (String.toList_ofList)
  | negSucc n =>
      have hsign : minus (Int.negSucc n < 0) = ['-'] := by simp [minus, Int.negSucc_lt_zero]
      have hrepr : toString (Int.negSucc n) = "-" ++ toString (n + 1) := rfl
      rw [hsign, hrepr, Text.of, String.toList_append, Text.ofChars, List.map_append]
      exact congrArg _ (congrArg Text.ofChars String.toList_ofList)

theorem signed_natAbs (n : Int) : Number.Double.signed (n < 0) n.natAbs = n := by
  simp only [Number.Double.signed, decide_eq_true_eq]
  split <;> omega

/-- An integer that is not too long reads back. -/
theorem readNumber_toString {n : Int} (hn : n.natAbs < Nat.pow 10 maxDigits)
    (hrest : EndsNumber rest) :
    readNumber (Text.of (toString n) ++ rest) = .ok (.int n, rest) := by
  have hnumeral := isNumeral_toDigits n.natAbs
  have hlength : (Text.ofChars (Nat.toDigits 10 n.natAbs)).length ≤ maxDigits := by
    rw [Text.ofChars, List.length_map]
    exact length_toDigits_le (by decide) hn
  rw [toString_eq, List.append_assoc, readNumber_integer hnumeral.allDigits hnumeral.ofChars_ne_nil
    hnumeral.head_ofChars hrest, integer?, if_neg (Nat.not_lt.mpr hlength), valueOf_toDigits,
    signed_natAbs]
  rfl

/-! ## Floats -/

theorem ofChars_append (as bs : List Char) :
    Text.ofChars (as ++ bs) = Text.ofChars as ++ Text.ofChars bs := List.map_append

/-- Digits that do not start with a zero, with a point at some place; a zero has its point
behind it. -/
structure IsSignificand (cs : List Char) (point : Int) : Prop where
  ne_nil : cs ≠ []
  isDigit : ∀ c ∈ cs, c.isDigit = true
  head : cs.head? ≠ some '0' ∨ cs = ['0'] ∧ point = 1

namespace IsSignificand

variable {point : Int}

theorem isNumeral (h : IsSignificand cs point) : IsNumeral cs :=
  ⟨h.ne_nil, h.isDigit, h.head.imp_right And.left⟩

theorem zero : IsSignificand ['0'] 1 := ⟨by simp, by simp, .inr ⟨rfl, rfl⟩⟩

end IsSignificand

open Number in
/-- The digits without zeros at the end are those of the decimal divided by a power of ten. -/
theorem significand_spec {d : Double.Decimal} (hd : d.digits ≠ 0) :
    IsSignificand (Double.significand d).1 (Double.significand d).2 ∧
      ∃ zeros : Nat,
        d.digits = valueOf (Text.ofChars (Double.significand d).1) * 10 ^ zeros ∧
        (Double.significand d).2 = d.exponent + zeros + (Double.significand d).1.length := by
  generalize hall : Nat.toDigits 10 d.digits = all
  obtain ⟨kept, zeros, hsplit, hkept⟩ : ∃ kept zeros, all = kept ++ List.replicate zeros '0' ∧
      kept = (all.reverse.dropWhile (· == '0')).reverse := by
    refine ⟨_, (all.reverse.takeWhile (· == '0')).length, ?_, rfl⟩
    have hzeros : all.reverse.takeWhile (· == '0') =
        List.replicate (all.reverse.takeWhile (· == '0')).length '0' :=
      List.eq_replicate_of_mem fun c hc => by simpa using List.mem_takeWhile_imp hc
    rw [← List.reverse_replicate, ← hzeros, ← List.reverse_append,
      List.takeWhile_append_dropWhile, List.reverse_reverse]
  have hvalue : d.digits = valueOf (Text.ofChars kept) * 10 ^ zeros := by
    rw [← valueOf_toDigits d.digits, hall, hsplit, ofChars_append, ofChars_replicate_zero,
      valueOf_append_zeros]
  have hne : kept ≠ [] := by
    rintro rfl
    rw [hvalue] at hd
    exact hd (Nat.zero_mul _)
  have hhead : kept.head? ≠ some '0' := by
    rw [← List.head?_append_of_ne_nil kept hne, ← hsplit, ← hall]
    exact head?_toDigits_ne hd
  have hfirst : (Double.significand d).1 = kept := by
    unfold Double.significand
    dsimp only
    rw [hall, ← hkept, if_neg (by simpa using hne)]
  have hsecond : (Double.significand d).2 = all.length + d.exponent := by
    rw [← hall]
    rfl
  rw [hfirst, hsecond]
  refine ⟨⟨hne, fun c hc => ?_, .inl hhead⟩, zeros, hvalue, ?_⟩
  · refine isDigit_of_mem_toDigits (n := d.digits) c ?_
    rw [hall, hsplit]
    exact List.mem_append_left _ hc
  · rw [hsplit, List.length_append, List.length_replicate]
    omega

variable {point : Int}

theorem noDigit_point (s : Text) : NoDigit (.char '.' :: s) := by
  rintro c ⟨⟩
  rfl

theorem noDigit_exponent (s : Text) : NoDigit (.char 'e' :: s) := by
  rintro c ⟨⟩
  rfl

/-- A point in front of all digits. -/
theorem readNumber_layout_before (negative : Bool) (h : IsSignificand cs point) (hlow : -4 < point)
    (hhigh : point ≤ 0) (hrest : EndsNumber rest) :
    readNumber (minus negative ++ (Text.ofChars (Number.Double.layout cs point) ++ rest)) =
      .ok (.float (.ofDecimal negative (valueOf (Text.ofChars cs)) (point - cs.length)), rest) := by
  generalize hfraction : zeros (-point).toNat ++ Text.ofChars cs = fraction
  have hlayout : Text.ofChars (Number.Double.layout cs point) ++ rest =
      zeros 1 ++ .char '.' :: (fraction ++ rest) := by
    rw [Number.Double.layout, if_pos ⟨hlow, by omega⟩, if_pos hhigh, ← hfraction]
    simp [Text.ofChars, zeros]
  have hdigits : AllDigits fraction :=
    hfraction ▸ allDigits_append (allDigits_zeros _) h.isNumeral.allDigits
  have hne : fraction ≠ [] :=
    hfraction ▸ List.append_ne_nil_of_right_ne_nil _ h.isNumeral.ofChars_ne_nil
  have hvalue : valueOf (zeros 1 ++ fraction) = valueOf (Text.ofChars cs) := by
    rw [valueOf_zeros_append, ← hfraction, valueOf_zeros_append]
  have hlength : fraction.length = (-point).toNat + cs.length := by
    simp [← hfraction, Text.ofChars]
  have hexponent : (none : Option Int).getD 0 - (fraction.length : Int) = point - cs.length := by
    rw [hlength, Option.getD_none]
    omega
  rw [hlayout, readNumber_float (allDigits_zeros 1) (by decide) (.inr rfl) (noDigit_point _)
    (splitFraction_point hdigits hne hrest.noDigit) (splitExponent_of_endsNumber hrest) (.inl hne),
    hvalue, hexponent]

/-- A point behind all digits. -/
theorem readNumber_layout_behind (negative : Bool) (h : IsSignificand cs point) (hlow : 0 < point)
    (hhigh : point ≤ 16) (hlength : (cs.length : Int) ≤ point) (hrest : EndsNumber rest) :
    readNumber (minus negative ++ (Text.ofChars (Number.Double.layout cs point) ++ rest)) =
      .ok (.float (.ofDecimal negative (valueOf (Text.ofChars cs)) (point - cs.length)), rest) := by
  generalize hwhole : Text.ofChars cs ++ zeros (point.toNat - cs.length) = whole
  have hlayout : Text.ofChars (Number.Double.layout cs point) ++ rest =
      whole ++ .char '.' :: (zeros 1 ++ rest) := by
    rw [Number.Double.layout, if_pos ⟨by omega, hhigh⟩, if_neg (by omega), if_pos hlength, ← hwhole]
    simp [Text.ofChars, zeros]
  have hdigits : AllDigits whole :=
    hwhole ▸ allDigits_append h.isNumeral.allDigits (allDigits_zeros _)
  have hne : whole ≠ [] :=
    hwhole ▸ List.append_ne_nil_of_left_ne_nil h.isNumeral.ofChars_ne_nil _
  have hfirst : whole.head? ≠ some (.char '0') ∨ whole = ['0'] := by
    rcases h.head with hhead | ⟨rfl, rfl⟩
    · left
      rw [← hwhole, List.head?_append_of_ne_nil _ h.isNumeral.ofChars_ne_nil]
      exact head?_ofChars_ne hhead
    · exact .inr hwhole.symm
  have hvalue : valueOf (whole ++ zeros 1) =
      valueOf (Text.ofChars cs) * 10 ^ (point.toNat - cs.length + 1) := by
    rw [valueOf_append_zeros, ← hwhole, valueOf_append_zeros, Nat.mul_assoc, ← pow_add]
  have hexponent : (none : Option Int).getD 0 - ((zeros 1).length : Int) +
      (point.toNat - cs.length + 1 : Nat) = point - cs.length := by
    rw [length_zeros, Option.getD_none]
    omega
  rw [hlayout, readNumber_float hdigits hne hfirst (noDigit_point _)
    (splitFraction_point (allDigits_zeros 1) (by decide) hrest.noDigit)
    (splitExponent_of_endsNumber hrest) (.inl (by decide)),
    hvalue, Number.Double.ofDecimal_mul_ten_pow, hexponent]

/-- A point among the digits. -/
theorem readNumber_layout_among (negative : Bool) (h : IsSignificand cs point) (hlow : 0 < point)
    (hhigh : point ≤ 16) (hlength : point < cs.length) (hrest : EndsNumber rest) :
    readNumber (minus negative ++ (Text.ofChars (Number.Double.layout cs point) ++ rest)) =
      .ok (.float (.ofDecimal negative (valueOf (Text.ofChars cs)) (point - cs.length)), rest) := by
  obtain ⟨n, rfl⟩ : ∃ n : Nat, point = n := ⟨point.toNat, by omega⟩
  have hhead : cs.head? ≠ some '0' := by
    rcases h.head with hhead | ⟨rfl, hone⟩
    · exact hhead
    · simp at hlength
      omega
  have hsplit : Text.ofChars (cs.take n) ++ Text.ofChars (cs.drop n) = Text.ofChars cs := by
    rw [← ofChars_append, List.take_append_drop]
  have hlayout : Text.ofChars (Number.Double.layout cs n) ++ rest =
      Text.ofChars (cs.take n) ++ .char '.' :: (Text.ofChars (cs.drop n) ++ rest) := by
    rw [Number.Double.layout, if_pos ⟨by omega, hhigh⟩, if_neg (by omega), if_neg (by omega)]
    simp [Text.ofChars]
  have hwhole : AllDigits (Text.ofChars (cs.take n)) :=
    allDigits_ofChars fun c hc => h.isDigit c (List.mem_of_mem_take hc)
  have hfraction : AllDigits (Text.ofChars (cs.drop n)) :=
    allDigits_ofChars fun c hc => h.isDigit c (List.mem_of_mem_drop hc)
  have hne : Text.ofChars (cs.take n) ≠ [] := by
    simp [Text.ofChars, h.ne_nil]
    omega
  have hne' : Text.ofChars (cs.drop n) ≠ [] := by
    simp [Text.ofChars]
    omega
  have hfirst : (cs.take n).head? ≠ some '0' := by
    rw [List.head?_take, if_neg (by omega)]
    exact hhead
  have hexponent : (none : Option Int).getD 0 - ((Text.ofChars (cs.drop n)).length : Int) =
      n - cs.length := by
    simp [Text.ofChars]
    omega
  rw [hlayout, readNumber_float hwhole hne (.inl (head?_ofChars_ne hfirst)) (noDigit_point _)
    (splitFraction_point hfraction hne' hrest.noDigit) (splitExponent_of_endsNumber hrest)
    (.inl hne'), hsplit, hexponent]

/-- The digits of an exponent, of which there are at least two. -/
def exponentDigits (n : Nat) : List Char :=
  if (Nat.toDigits 10 n).length < 2 then '0' :: Nat.toDigits 10 n else Nat.toDigits 10 n

theorem allDigits_exponentDigits (n : Nat) : AllDigits (Text.ofChars (exponentDigits n)) := by
  refine allDigits_ofChars ?_
  unfold exponentDigits
  split
  · exact List.forall_mem_cons.mpr ⟨rfl, isDigit_of_mem_toDigits⟩
  · exact isDigit_of_mem_toDigits

theorem valueOf_exponentDigits (n : Nat) : valueOf (Text.ofChars (exponentDigits n)) = n := by
  unfold exponentDigits
  split
  · exact (valueOf_zeros_append 1 _).trans (valueOf_toDigits n)
  · exact valueOf_toDigits n

theorem exponentDigits_ne_nil (n : Nat) : Text.ofChars (exponentDigits n) ≠ [] := by
  refine mt List.map_eq_nil_iff.mp ?_
  unfold exponentDigits
  split
  · exact List.cons_ne_nil _ _
  · exact Nat.toDigits_ne_nil

/-- A point behind the first digit, and an exponent. -/
theorem readNumber_layout_exponent (negative : Bool) (h : IsSignificand cs point)
    (hpoint : ¬(-4 < point ∧ point ≤ 16)) (hrest : EndsNumber rest) :
    readNumber (minus negative ++ (Text.ofChars (Number.Double.layout cs point) ++ rest)) =
      .ok (.float (.ofDecimal negative (valueOf (Text.ofChars cs)) (point - cs.length)), rest) := by
  have hhead : cs.head? ≠ some '0' := by
    rcases h.head with hhead | ⟨-, hone⟩
    · exact hhead
    · omega
  obtain ⟨c, ds, rfl⟩ := List.exists_cons_of_ne_nil h.ne_nil
  generalize hbehind : .char 'e' :: exponentSign (point - 1 < 0) ::
    (Text.ofChars (exponentDigits (point - 1).natAbs) ++ rest) = behind
  have hexponent : splitExponent behind = (some (point - 1), rest) := by
    rw [← hbehind, splitExponent_sign _ (allDigits_exponentDigits _) (exponentDigits_ne_nil _)
      hrest.noDigit, valueOf_exponentDigits, signed_natAbs]
  have hnoDigit : NoDigit behind := hbehind ▸ noDigit_exponent _
  have hwhole : AllDigits (Text.ofChars [c]) :=
    allDigits_ofChars fun d hd => h.isDigit d (by simp_all)
  have hdigits : AllDigits (Text.ofChars ds) :=
    allDigits_ofChars fun d hd => h.isDigit d (List.mem_cons_of_mem c hd)
  have hfirst : (Text.ofChars [c]).head? ≠ some (.char '0') := head?_ofChars_ne hhead
  obtain ⟨body, hlayout, hbody, hfraction⟩ : ∃ body,
      Text.ofChars (Number.Double.layout (c :: ds) point) ++ rest = Text.ofChars [c] ++ body ∧
        NoDigit body ∧ splitFraction body = (Text.ofChars ds, behind) := by
    by_cases hds : ds = []
    · refine ⟨behind, ?_, hnoDigit, ?_⟩
      · rw [Number.Double.layout, if_neg hpoint, ← hbehind, hds]
        simp [Text.ofChars, exponentDigits, exponentSign]
      · rw [hds, ← hbehind]
        rfl
    · refine ⟨.char '.' :: (Text.ofChars ds ++ behind), ?_, noDigit_point _,
        splitFraction_point hdigits (mt List.map_eq_nil_iff.mp hds) hnoDigit⟩
      have hlong : ¬(c :: ds).length ≤ 1 := by simpa using hds
      rw [Number.Double.layout, if_neg hpoint, ← hbehind]
      simp only [if_neg hlong]
      simp [Text.ofChars, exponentDigits, exponentSign]
  have hplace : (some (point - 1)).getD 0 - ((Text.ofChars ds).length : Int) =
      point - (c :: ds).length := by
    simp [Text.ofChars]
    omega
  rw [hlayout, readNumber_float hwhole (by simp [Text.ofChars]) (.inl hfirst) hbody hfraction
    hexponent (.inr (by simp)), hplace]
  rfl

/-- Digits with a point are read as the decimal they spell. -/
theorem readNumber_layout (negative : Bool) (h : IsSignificand cs point) (hrest : EndsNumber rest) :
    readNumber (minus negative ++ (Text.ofChars (Number.Double.layout cs point) ++ rest)) =
      .ok (.float (.ofDecimal negative (valueOf (Text.ofChars cs)) (point - cs.length)), rest) := by
  by_cases hplaces : -4 < point ∧ point ≤ 16
  · obtain ⟨hlow, hhigh⟩ := hplaces
    by_cases hbefore : point ≤ 0
    · exact readNumber_layout_before negative h hlow hbefore hrest
    by_cases hbehind : (cs.length : Int) ≤ point
    · exact readNumber_layout_behind negative h (by omega) hhigh hbehind hrest
    · exact readNumber_layout_among negative h (by omega) hhigh (by omega) hrest
  · exact readNumber_layout_exponent negative h hplaces hrest

/-- The digits that a double is written with, and the place of the point. -/
def writtenDigits (negative : Bool) (m : Nat) (e : Int) (h : Number.Canonical m e) :
    List Char × Int :=
  if m = 0 then (['0'], 1)
  else Number.Double.significand (Number.Double.shortest (.finite negative m e h) negative m e)

theorem of_text_finite (negative : Bool) (m : Nat) (e : Int) (h : Number.Canonical m e) :
    Text.of (Number.Double.text floatWords (.finite negative m e h)) =
      minus negative ++ Text.ofChars (Number.Double.layout (writtenDigits negative m e h).1
        (writtenDigits negative m e h).2) := by
  have htext : Number.Double.text floatWords (.finite negative m e h) =
      (if negative then "-" else "") ++ String.ofList (Number.Double.layout
        (writtenDigits negative m e h).1 (writtenDigits negative m e h).2) := rfl
  rw [htext, Text.of, String.toList_append, String.toList_ofList, ofChars_append]
  cases negative <;> rfl

theorem isSignificand_writtenDigits (negative : Bool) (m : Nat) (e : Int)
    (h : Number.Canonical m e) :
    IsSignificand (writtenDigits negative m e h).1 (writtenDigits negative m e h).2 := by
  unfold writtenDigits
  split
  · exact .zero
  · next hm => exact (significand_spec (Number.Double.shortest_digits_ne_zero negative h hm)).1

/-- The digits of a double stand for the double. -/
theorem ofDecimal_writtenDigits (negative : Bool) (m : Nat) (e : Int) (h : Number.Canonical m e) :
    Number.Double.ofDecimal negative (valueOf (Text.ofChars (writtenDigits negative m e h).1))
      ((writtenDigits negative m e h).2 - (writtenDigits negative m e h).1.length) =
        .finite negative m e h := by
  by_cases hm : m = 0
  · subst hm
    have he : e = -1074 := h.2.2.2.resolve_left (by decide)
    subst he
    rfl
  · have hwritten : writtenDigits negative m e h =
        Number.Double.significand (Number.Double.shortest (.finite negative m e h) negative m e) :=
      if_neg hm
    have hback := Number.Double.ofDecimal_shortest negative h hm rfl
    obtain ⟨-, zeros, hdigits, hplace⟩ :=
      significand_spec (Number.Double.shortest_digits_ne_zero negative h hm)
    rw [hwritten]
    generalize Number.Double.shortest (.finite negative m e h) negative m e = d
      at hback hdigits hplace
    rw [hdigits, Number.Double.ofDecimal_mul_ten_pow] at hback
    rw [hplace, Int.add_sub_cancel]
    exact hback

/-- A finite float reads back. -/
theorem readNumber_text (negative : Bool) (m : Nat) (e : Int) (h : Number.Canonical m e)
    (hrest : EndsNumber rest) :
    readNumber (Text.of (Number.Double.text floatWords (.finite negative m e h)) ++ rest) =
      .ok (.float (.finite negative m e h), rest) := by
  rw [of_text_finite, List.append_assoc,
    readNumber_layout negative (isSignificand_writtenDigits negative m e h) hrest,
    ofDecimal_writtenDigits]

end Json

end MountainRange
