import MountainRange.Payload.Integer
import MountainRange.Proofs.Spelling
set_option autoImplicit false

/-!
# The grammar of numerals

A numeral is a sign or none and a run of digits, between blanks.  The digits may be of
any script and have single underscores between them, and there is a limit to their number.
Exactly these texts are read as integers.
-/

namespace MountainRange.Text

open Number.Double (signed)
open Payload (isAround)

/-! ## The grammar -/

/-- A run of digits of any script, with at most one underscore between every two of them. -/
inductive Grouped : List Nat → Text → Prop where
  | last {c : Letter} {d : Nat} (hc : decimalDigit? c = some d) : Grouped [d] [c]
  | digit {c : Letter} {d : Nat} {ds : List Nat} {t : Text} (hc : decimalDigit? c = some d)
      (ht : Grouped ds t) : Grouped (d :: ds) (c :: t)
  | underscore {c : Letter} {d : Nat} {ds : List Nat} {t : Text} (hc : decimalDigit? c = some d)
      (ht : Grouped ds t) : Grouped (d :: ds) (c :: .char '_' :: t)

/-- A sign in front of digits; `true` stands for the minus. -/
inductive Signs : Bool → Text → Prop where
  | none : Signs false []
  | plus : Signs false ['+']
  | minus : Signs true ['-']

/-- A text is a numeral of an integer. -/
inductive IsNumeral : Int → Text → Prop where
  | intro {before sign run after : Text} {negative : Bool} {ds : List Nat}
      (hbefore : ∀ c ∈ before, isAround c = true) (hsign : Signs negative sign)
      (hrun : Grouped ds run) (hlength : ds.length ≤ Numeral.maxDigits)
      (hafter : ∀ c ∈ after, isAround c = true) :
      IsNumeral (signed negative (ofDigits 10 ds)) (before ++ (sign ++ (run ++ after)))

namespace Numeral

/-! ## Letters in their plain form -/

/-- The first 128 letters are plain.  Every other letter is seen as a space, as a digit, or as
something that fits nowhere. -/
theorem plain_cases (c : Letter) :
    (c.toNat < 0x80 ∧ plain c = c) ∨
    (0x80 ≤ c.toNat ∧ isBlank c = true ∧ plain c = .char ' ') ∨
    (0x80 ≤ c.toNat ∧ isBlank c = false ∧
      ∃ d < 10, decimalDigit? c = some d ∧ plain c = .char (Nat.digitChar d)) ∨
    (0x80 ≤ c.toNat ∧ isBlank c = false ∧ decimalDigit? c = none ∧ plain c = .char '?') := by
  unfold plain
  by_cases hlow : c.toNat < 0x80
  · exact .inl ⟨hlow, if_pos hlow⟩
  have hhigh : 0x80 ≤ c.toNat := Nat.le_of_not_lt hlow
  rw [if_neg hlow]
  by_cases hblank : isBlank c = true
  · exact .inr (.inl ⟨hhigh, hblank, if_pos hblank⟩)
  have hblank : isBlank c = false := Bool.not_eq_true _ ▸ hblank
  refine .inr (.inr ?_)
  rw [hblank, if_neg (by simp)]
  cases hdigit : decimalDigit? c with
  | none => exact .inr ⟨hhigh, rfl, rfl, rfl⟩
  | some d => exact .inl ⟨hhigh, rfl, d, (decimalDigit?_eq_some hdigit).1, rfl, rfl⟩

/-- No sign, and no underscore, is the plain form of another letter. -/
theorem plain_eq_iff {x : Char} (hx : x = '-' ∨ x = '+' ∨ x = '_') (c : Letter) :
    plain c = .char x ↔ c = .char x := by
  have hsmall : x.toNat < 0x80 := by rcases hx with rfl | rfl | rfl <;> decide
  have hdigit : ∀ d < 10, Nat.digitChar d ≠ x := by rcases hx with rfl | rfl | rfl <;> decide
  have hspace : ' ' ≠ x := by rcases hx with rfl | rfl | rfl <;> decide
  have hother : '?' ≠ x := by rcases hx with rfl | rfl | rfl <;> decide
  have hself : 0x80 ≤ c.toNat → c ≠ .char x := by
    rintro hhigh rfl
    exact absurd hsmall (Nat.not_lt.mpr hhigh)
  rcases plain_cases c with ⟨-, h⟩ | ⟨hc, -, h⟩ | ⟨hc, -, d, hd, -, h⟩ | ⟨hc, -, -, h⟩
  · rw [h]
  · simp [h, hspace, hself hc]
  · simp [h, hdigit d hd, hself hc]
  · simp [h, hother, hself hc]

/-- The digits of all scripts are those whose plain form is a digit. -/
theorem isDigit_plain_iff (c : Letter) :
    (plain c).isDigit = true ↔ ∃ d, decimalDigit? c = some d := by
  constructor
  · intro h
    rcases plain_cases c with ⟨hc, hplain⟩ | ⟨-, -, hplain⟩ | ⟨-, -, d, -, hd, -⟩ |
      ⟨-, -, -, hplain⟩
    · rw [hplain] at h
      exact ⟨c.toNat - 0x30, by rw [decimalDigit?, if_pos hc, if_pos h]⟩
    · rw [hplain] at h
      cases h
    · exact ⟨d, hd⟩
    · rw [hplain] at h
      cases h
  · rintro ⟨d, hd⟩
    have hall : ∀ e < 10, Letter.isDigit (.char (Nat.digitChar e)) = true := by decide
    rw [plain_of_decimalDigit? hd]
    exact hall d (decimalDigit?_eq_some hd).1

/-- What may stand around a numeral is what has a plain blank for its plain form. -/
theorem isPlainBlank_plain (c : Letter) : isPlainBlank (plain c) = isAround c := by
  have hsmall : ∀ n < 0x80, isPlainBlank (.ofNat n) = isAround (.ofNat n) := by decide
  have hdigit : ∀ d < 10, isPlainBlank (.char (Nat.digitChar d)) = false := by decide
  rcases plain_cases c with ⟨hc, h⟩ | ⟨hc, hblank, h⟩ | ⟨-, hblank, d, hd, -, h⟩ | ⟨-, hblank, -, h⟩
  · rw [h, ← c.ofNat_toNat]
    exact hsmall c.toNat hc
  · have hbeyond : ¬c.toNat ≤ 0x1F := by omega
    simp [h, isAround, hblank, hbeyond, isPlainBlank]
  · rw [h, hdigit d hd, isAround, hblank, Bool.false_and]
  · rw [h, isAround, hblank]
    rfl

/-! ## Runs of digits -/

theorem wellGrouped_cons_digit {c : Letter} (h : c.isDigit = true) (afterDigit : Bool)
    (run : Text) : wellGrouped afterDigit (c :: run) = wellGrouped true run := by
  rw [wellGrouped]
  rintro rfl
  cases h

/-- A run that is well grouped in its plain form is one of digits with underscores between
them; behind a digit it may start with an underscore. -/
theorem exists_grouped {run : Text} (hrun : ∀ c ∈ run, isRunChar (plain c) = true) :
    (wellGrouped false (run.map plain) = true → ∃ ds, Grouped ds run) ∧
    (wellGrouped true (run.map plain) = true →
      ∀ c d, decimalDigit? c = some d → ∃ ds, Grouped ds (c :: run)) := by
  induction run with
  | nil =>
      constructor
      · intro h
        cases h
      · intro _ c d hc
        exact ⟨[d], .last hc⟩
  | cons e run ih =>
      obtain ⟨he, hrun⟩ := List.forall_mem_cons.mp hrun
      obtain ⟨ihStart, ihAfter⟩ := ih hrun
      rw [List.map_cons]
      by_cases hunderscore : plain e = .char '_'
      · rw [hunderscore]
        obtain rfl := (plain_eq_iff (by simp) e).mp hunderscore
        constructor
        · intro h
          cases h
        · intro h c d hc
          obtain ⟨ds, hds⟩ := ihStart h
          exact ⟨d :: ds, .underscore hc hds⟩
      · have hdigit : (plain e).isDigit = true := by
          simpa [isRunChar, hunderscore] using he
        obtain ⟨f, hf⟩ := (isDigit_plain_iff e).mp hdigit
        rw [wellGrouped_cons_digit hdigit, wellGrouped_cons_digit hdigit]
        constructor
        · intro h
          exact ihAfter h e f hf
        · intro h c d hc
          obtain ⟨ds, hds⟩ := ihAfter h e f hf
          exact ⟨d :: ds, .digit hc hds⟩

variable {ds : List Nat} {run : Text}

theorem isDigit_plain {c : Letter} {d : Nat} (h : decimalDigit? c = some d) :
    (plain c).isDigit = true := (isDigit_plain_iff c).mpr ⟨d, h⟩

theorem isRunChar_plain_of_grouped (h : Grouped ds run) :
    ∀ c ∈ run, isRunChar (plain c) = true := by
  have hunderscore : isRunChar (plain (.char '_')) = true := by decide
  induction h with
  | last hc => simp [isRunChar_of_isDigit (isDigit_plain hc)]
  | digit hc _ ih => simpa [isRunChar_of_isDigit (isDigit_plain hc)] using ih
  | underscore hc _ ih => simpa [isRunChar_of_isDigit (isDigit_plain hc), hunderscore] using ih

theorem wellGrouped_plain_of_grouped (h : Grouped ds run) (afterDigit : Bool) :
    wellGrouped afterDigit (run.map plain) = true := by
  have hunderscore : plain (.char '_') = .char '_' := by decide
  induction h generalizing afterDigit with
  | last hc => simp [wellGrouped_cons_digit (isDigit_plain hc), wellGrouped]
  | digit hc _ ih => simp [wellGrouped_cons_digit (isDigit_plain hc), ih]
  | underscore hc _ ih =>
      simp [wellGrouped_cons_digit (isDigit_plain hc), hunderscore, wellGrouped, ih]

theorem filter_plain_of_grouped (h : Grouped ds run) :
    (run.map plain).filter Letter.isDigit = ds.map fun d => .char (Nat.digitChar d) := by
  have hunderscore : Letter.isDigit (plain (.char '_')) = false := by decide
  have hall : ∀ e < 10, Letter.isDigit (.char (Nat.digitChar e)) = true := by decide
  induction h with
  | last hc =>
      have hd := (decimalDigit?_eq_some hc).1
      simp [plain_of_decimalDigit? hc, hall _ hd]
  | digit hc _ ih =>
      have hd := (decimalDigit?_eq_some hc).1
      simp [plain_of_decimalDigit? hc, hall _ hd, ih]
  | underscore hc _ ih =>
      have hd := (decimalDigit?_eq_some hc).1
      simp [plain_of_decimalDigit? hc, hall _ hd, hunderscore, ih]

/-! ## Taking a text apart -/

/-- What a run of digits in front of blanks is cut at. -/
theorem isRunChar_plain_of_isAround {c : Letter} (h : isAround c = true) :
    isRunChar (plain c) = false := by
  rw [← isPlainBlank_plain] at h
  cases hrun : isRunChar (plain c) with
  | false => rfl
  | true =>
      simp only [isRunChar, Bool.or_eq_true, decide_eq_true_eq] at hrun
      rcases hrun with hdigit | hunderscore
      · rw [isPlainBlank_of_isDigit hdigit] at h
        cases h
      · rw [hunderscore] at h
        cases h

theorem splitSign_map_plain (t : Text) :
    splitSign (t.map plain) = ((splitSign t).1, (splitSign t).2.map plain) := by
  have hminus : plain (.char '-') = .char '-' := by decide
  have hplus : plain (.char '+') = .char '+' := by decide
  cases t with
  | nil => rfl
  | cons c t =>
      by_cases hm : c = .char '-'
      · subst hm
        simp [splitSign, hminus]
      by_cases hp : c = .char '+'
      · subst hp
        simp [splitSign, hplus]
      have hm' : plain c ≠ .char '-' := mt (plain_eq_iff (by simp) c).mp hm
      have hp' : plain c ≠ .char '+' := mt (plain_eq_iff (by simp) c).mp hp
      simp [splitSign, hm, hp, hm', hp']

theorem exists_signs (t : Text) :
    ∃ sign, Signs (splitSign t).1 sign ∧ t = sign ++ (splitSign t).2 := by
  unfold splitSign
  split
  · exact ⟨_, .minus, rfl⟩
  · exact ⟨_, .plus, rfl⟩
  · exact ⟨_, .none, rfl⟩

theorem exists_digit_of_grouped (h : Grouped ds run) :
    ∃ c d rest, run = c :: rest ∧ decimalDigit? c = some d := by
  cases h with
  | last hc => exact ⟨_, _, _, rfl, hc⟩
  | digit hc _ => exact ⟨_, _, _, rfl, hc⟩
  | underscore hc _ => exact ⟨_, _, _, rfl, hc⟩

/-- A sign is told from the digits behind it. -/
theorem splitSign_append {negative : Bool} {sign : Text} (hsign : Signs negative sign)
    (hrun : Grouped ds run) (after : Text) :
    splitSign (sign ++ (run ++ after)) = (negative, run ++ after) := by
  cases hsign with
  | plus => rfl
  | minus => rfl
  | none =>
      obtain ⟨c, d, rest, rfl, hc⟩ := exists_digit_of_grouped hrun
      simp only [List.nil_append, List.cons_append]
      unfold splitSign
      split
      · next heq =>
          cases heq
          cases hc
      · next heq =>
          cases heq
          cases hc
      · rfl

/-- Blanks end where a sign or a digit stands. -/
theorem dropWhile_isAround_append {negative : Bool} {before sign : Text}
    (hbefore : ∀ c ∈ before, isAround c = true) (hsign : Signs negative sign)
    (hrun : Grouped ds run) (after : Text) :
    (before ++ (sign ++ (run ++ after))).dropWhile isAround = sign ++ (run ++ after) := by
  rw [List.dropWhile_append_of_pos hbefore]
  cases hsign with
  | plus => exact List.dropWhile_cons_of_neg (by decide)
  | minus => exact List.dropWhile_cons_of_neg (by decide)
  | none =>
      obtain ⟨c, d, rest, rfl, hc⟩ := exists_digit_of_grouped hrun
      apply List.dropWhile_cons_of_neg
      simp [isAround, isBlank_of_decimalDigit? hc]

/-- A run ends where blanks start. -/
theorem cut_append (hrun : Grouped ds run) {after : Text}
    (hafter : ∀ c ∈ after, isAround c = true) :
    (run ++ after).takeWhile (isRunChar ∘ plain) = run ∧
      (run ++ after).dropWhile (isRunChar ∘ plain) = after := by
  have hchars : ∀ c ∈ run, (isRunChar ∘ plain) c = true := isRunChar_plain_of_grouped hrun
  rw [List.takeWhile_append_of_pos hchars, List.dropWhile_append_of_pos hchars]
  cases after with
  | nil => simp
  | cons c after =>
      have hc : ¬(isRunChar ∘ plain) c = true := by
        simp [isRunChar_plain_of_isAround (hafter c List.mem_cons_self)]
      rw [List.takeWhile_cons_of_neg hc, List.dropWhile_cons_of_neg hc, List.append_nil]
      exact ⟨rfl, rfl⟩

theorem lt_ten_of_grouped (h : Grouped ds run) : ∀ d ∈ ds, d < 10 := by
  induction h with
  | last hc => simpa using (decimalDigit?_eq_some hc).1
  | digit hc _ ih => simpa using ⟨(decimalDigit?_eq_some hc).1, ih⟩
  | underscore hc _ ih => simpa using ⟨(decimalDigit?_eq_some hc).1, ih⟩

/-- A run has as many digits as it spells, and their value. -/
theorem digits_of_grouped (h : Grouped ds run) :
    ((run.map plain).filter Letter.isDigit).length = ds.length ∧
      valueOf ((run.map plain).filter Letter.isDigit) = ofDigits 10 ds := by
  rw [filter_plain_of_grouped h, List.length_map, valueOf_digits (lt_ten_of_grouped h)]
  exact ⟨rfl, rfl⟩

end Numeral

open Numeral

/-- The reader, on the letters as they are written. -/
theorem readInt_eq (t : Text) : readInt t =
    let (negative, body) := splitSign (t.dropWhile isAround)
    let run := body.takeWhile (isRunChar ∘ plain)
    let digits := (run.map plain).filter Letter.isDigit
    if !wellGrouped false (run.map plain) then .error (.notNumeral t)
    else if maxDigits < digits.length then .error (.tooManyDigits digits.length)
    else if (body.dropWhile (isRunChar ∘ plain)).all isAround then
      .ok (signed negative (valueOf digits))
    else .error (.notNumeral t) := by
  have haround : isPlainBlank ∘ plain = isAround := funext isPlainBlank_plain
  simp only [readInt, List.dropWhile_map, haround, splitSign_map_plain, List.takeWhile_map,
    List.all_map]
  rfl

/-- A text is read as an integer exactly if it is a numeral of the integer. -/
theorem readInt_eq_ok_iff {t : Text} {n : Int} : readInt t = .ok n ↔ IsNumeral n t := by
  constructor
  · intro h
    rw [readInt_eq] at h
    obtain ⟨sign, hsign, hbody⟩ := exists_signs (t.dropWhile isAround)
    generalize splitSign (t.dropWhile isAround) = parts at h hsign hbody
    obtain ⟨negative, body⟩ := parts
    have hchars : ∀ c ∈ body.takeWhile (isRunChar ∘ plain), (isRunChar ∘ plain) c = true :=
      fun c hc => List.mem_takeWhile_imp hc
    have hcut := List.takeWhile_append_dropWhile (p := isRunChar ∘ plain) (l := body)
    dsimp only at h hbody
    generalize body.takeWhile (isRunChar ∘ plain) = run at h hchars hcut
    generalize body.dropWhile (isRunChar ∘ plain) = after at h hcut
    split at h
    · cases h
    · next hgrouped =>
        obtain ⟨ds, hrun⟩ := (exists_grouped hchars).1 (by simpa using hgrouped)
        obtain ⟨hcount, hvalue⟩ := digits_of_grouped hrun
        rw [hcount, hvalue] at h
        split at h
        · cases h
        · next hlength =>
            split at h
            · next hafter =>
                cases h
                have ht : t = t.takeWhile isAround ++ (sign ++ (run ++ after)) := by
                  rw [hcut, ← hbody, List.takeWhile_append_dropWhile]
                rw [ht]
                exact .intro (fun c hc => List.mem_takeWhile_imp hc) hsign hrun
                  (Nat.le_of_not_lt hlength) (List.all_eq_true.mp hafter)
            · cases h
  · rintro ⟨hbefore, hsign, hrun, hlength, hafter⟩
    obtain ⟨htake, hdrop⟩ := cut_append hrun hafter
    obtain ⟨hcount, hvalue⟩ := digits_of_grouped hrun
    rw [readInt_eq, dropWhile_isAround_append hbefore hsign hrun, splitSign_append hsign hrun]
    dsimp only
    rw [htake, hdrop, wellGrouped_plain_of_grouped hrun, hcount, hvalue, if_neg (by simp),
      if_neg (Nat.not_lt.mpr hlength), if_pos (List.all_eq_true.mpr hafter)]

/-- A text is a numeral of one integer at most. -/
theorem IsNumeral.unique {t : Text} {m n : Int} (hm : IsNumeral m t) (hn : IsNumeral n t) :
    m = n := by
  rw [← readInt_eq_ok_iff] at hm hn
  rw [hm] at hn
  exact Except.ok.inj hn

end MountainRange.Text
