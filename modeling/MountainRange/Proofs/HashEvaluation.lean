import MountainRange.Scheme
set_option autoImplicit false

/-!
# Evaluating the compact scheme

The constants of the compact scheme are SHA-256 digests of short messages.  This module
computes those digests on numbers instead of 32-bit words and lists of them, each
operation called by its own name, so that the kernel evaluates it in one step, and shows
that they are the same digests.
-/

namespace MountainRange

namespace Hash.Sha256

/-! ## Words as numbers -/

/-- The last 32 binary digits of a number. -/
def low (n : Nat) : Nat := n.mod 4294967296

/-- Right rotation of a word: a stretch of two copies of it, one in front of the other. -/
def turn (n amount : Nat) : Nat := low (((n.shiftLeft 32).lor n).shiftRight amount)

/-- Words as one number in base 2 ^ 32, the first of them its last digit. -/
def packed (words : List UInt32) : Nat :=
  words.foldr (fun w n => (n.mul 4294967296).add w.toNat) 0

/-- Words as one number in base 2 ^ 32, the first of them its first digit. -/
def spell (words : List Nat) : Nat := words.foldl (fun n w => (n.mul 4294967296).add w) 0

/-- The digit so many places in front of the last. -/
def digit (n place : Nat) : Nat := low (n.shiftRight (Nat.mul 32 place))

/-- The word that follows a packed schedule. -/
def nextDigit (n : Nat) : Nat :=
  let s0 := ((turn (digit n 14) 7).xor (turn (digit n 14) 18)).xor ((digit n 14).shiftRight 3)
  let s1 := ((turn (digit n 1) 17).xor (turn (digit n 1) 19)).xor ((digit n 1).shiftRight 10)
  low ((((digit n 15).add s0).add (digit n 6)).add s1)

/-- Extends a packed schedule by `count` words. -/
def extendDigits : (count : Nat) → Nat → Nat
  | 0, n => n
  | count + 1, n => extendDigits count ((n.mul 4294967296).add (nextDigit n))

/-- The constants of the rounds, packed. -/
def packedConstants : Nat := packed roundConstants.reverse

/-- The eight words of the chaining value as numbers. -/
structure Numbers where
  a : Nat
  b : Nat
  c : Nat
  d : Nat
  e : Nat
  f : Nat
  g : Nat
  h : Nat

/-- The numbers of a chaining value. -/
def Words.numbers (s : Words) : Numbers :=
  ⟨s.a.toNat, s.b.toNat, s.c.toNat, s.d.toNat, s.e.toNat, s.f.toNat, s.g.toNat, s.h.toNat⟩

namespace Numbers

/-- One round, taking up a constant and a schedule word. -/
def round (s : Numbers) (constant input : Nat) : Numbers :=
  let s1 := ((turn s.e 6).xor (turn s.e 11)).xor (turn s.e 25)
  let choice := (s.e.land s.f).xor ((Nat.sub 4294967295 s.e).land s.g)
  let t1 := (((s.h.add s1).add choice).add constant).add input
  let s0 := ((turn s.a 2).xor (turn s.a 13)).xor (turn s.a 22)
  let majority := ((s.a.land s.b).xor (s.a.land s.c)).xor (s.b.land s.c)
  ⟨low (t1.add (s0.add majority)), s.a, s.b, s.c, low (s.d.add t1), s.e, s.f, s.g⟩

/-- The first rounds over a packed schedule of 64 words. -/
def rounds (s : Numbers) (schedule : Nat) : (count : Nat) → Numbers
  | 0 => s
  | count + 1 =>
      (s.rounds schedule count).round (digit packedConstants (Nat.sub 63 count))
        (digit schedule (Nat.sub 63 count))

/-- The digest behind one block, which is given as the number that it spells. -/
def digest (s : Numbers) (block : Nat) : Nat :=
  let t := s.rounds (extendDigits 48 block) 64
  spell [low (s.a.add t.a), low (s.b.add t.b), low (s.c.add t.c), low (s.d.add t.d),
    low (s.e.add t.e), low (s.f.add t.f), low (s.g.add t.g), low (s.h.add t.h)]

end Numbers

/-- The SHA-256 digest of a message, on numbers if it takes up only one block. -/
def quick (message : List UInt8) : Nat :=
  if message.length < 56 then
    initial.numbers.digest (Bytes.toNat (message ++ padding message.length))
  else sha256 message

/-! ## Agreement with words -/

theorem toNat_rotate (w amount : UInt32) (h : 0 < amount.toNat ∧ amount.toNat < 32) :
    (rotate w amount).toNat = turn w.toNat amount.toNat := by
  obtain ⟨hpos, hlt⟩ := h
  have hback : (32 - amount).toNat = 32 - amount.toNat :=
    UInt32.toNat_sub_of_le _ _ (Nat.le_of_lt hlt)
  have hbound : 32 - amount.toNat < 32 := by omega
  have hshift : w.toNat <<< 32 >>> amount.toNat = w.toNat <<< (32 - amount.toNat) := by
    rw [← Nat.sub_add_cancel (Nat.le_of_lt hlt), Nat.shiftLeft_add, Nat.shiftLeft_shiftRight,
      Nat.add_sub_cancel]
  have hlow : (w.toNat >>> amount.toNat) % 2 ^ 32 = w.toNat >>> amount.toNat :=
    Nat.mod_eq_of_lt (Nat.lt_of_le_of_lt (Nat.shiftRight_le _ _) w.toNat_lt)
  show _ = ((w.toNat <<< 32 ||| w.toNat) >>> amount.toNat) % 2 ^ 32
  rw [Nat.shiftRight_or_distrib, Nat.or_mod_two_pow, hshift, hlow, rotate, UInt32.toNat_or,
    UInt32.toNat_shiftRight, UInt32.toNat_shiftLeft, hback, Nat.mod_eq_of_lt hlt,
    Nat.mod_eq_of_lt hbound, Nat.or_comm]

theorem packed_cons (w : UInt32) (words : List UInt32) :
    packed (w :: words) = packed words <<< 32 + w.toNat := by
  rw [Nat.shiftLeft_eq]
  rfl

/-- The digits of packed words are the words. -/
theorem digit_packed (words : List UInt32) (place : Nat) :
    digit (packed words) place = (words.getD place 0).toNat := by
  show packed words >>> (32 * place) % 2 ^ 32 = _
  induction words generalizing place with
  | nil => simp [packed]
  | cons w words ih =>
      have hlt := w.toNat_lt
      rw [packed_cons]
      cases place with
      | zero =>
          rw [Nat.mul_zero, Nat.shiftRight_zero, Nat.shiftLeft_eq, Nat.mul_add_mod_self_right,
            Nat.mod_eq_of_lt hlt]
          rfl
      | succ place =>
          have hshift : (packed words <<< 32 + w.toNat) >>> 32 = packed words := by
            rw [Nat.shiftRight_eq_div_pow, Nat.shiftLeft_eq]
            omega
          have hplace : 32 * (place + 1) = 32 + 32 * place := by omega
          rw [hplace, Nat.shiftRight_add, hshift, ih place, List.getD_cons_succ]

/-- Words packed in their order are digits from the front. -/
theorem digit_packed_reverse {words : List UInt32} (hlength : words.length = 64) {i : Nat}
    (hi : i < words.length) : digit (packed words.reverse) (63 - i) = words[i].toNat := by
  have hback : 63 - i < words.reverse.length := by
    rw [List.length_reverse]
    omega
  have hplace : words.length - 1 - (63 - i) = i := by omega
  rw [digit_packed, List.getD_eq_getElem?_getD, List.getElem?_eq_getElem hback, Option.getD_some,
    List.getElem_reverse]
  simp only [hplace]

theorem nextDigit_packed (schedule : List UInt32) :
    nextDigit (packed schedule) = (nextWord schedule).toNat := by
  have heq (n : Nat) : nextDigit n =
      (digit n 15 + (turn (digit n 14) 7 ^^^ turn (digit n 14) 18 ^^^ digit n 14 >>> 3) +
        digit n 6 + (turn (digit n 1) 17 ^^^ turn (digit n 1) 19 ^^^ digit n 1 >>> 10)) %
        2 ^ 32 := rfl
  simp (disch := decide) only [nextWord, heq, digit_packed, UInt32.toNat_add, UInt32.toNat_xor,
    UInt32.toNat_shiftRight, toNat_rotate, Nat.mod_add_mod]
  rfl

theorem extendDigits_packed (count : Nat) (schedule : List UInt32) :
    extendDigits count (packed schedule) = packed (extend count schedule) := by
  induction count generalizing schedule with
  | zero => rfl
  | succ count ih =>
      rw [extend, ← ih, packed_cons, ← nextDigit_packed, Nat.shiftLeft_eq]
      rfl

theorem length_extend (count : Nat) (schedule : List UInt32) :
    (extend count schedule).length = count + schedule.length := by
  induction count generalizing schedule with
  | zero => rw [extend, Nat.zero_add]
  | succ count ih =>
      rw [extend, ih, List.length_cons]
      omega

theorem round_numbers (s : Words) (constant input : UInt32) :
    s.numbers.round constant.toNat input.toNat = (round s (constant, input)).numbers := by
  have heq (s : Numbers) (constant input : Nat) : s.round constant input =
      let s1 := turn s.e 6 ^^^ turn s.e 11 ^^^ turn s.e 25
      let choice := (s.e &&& s.f) ^^^ ((2 ^ 32 - 1 - s.e) &&& s.g)
      let t1 := s.h + s1 + choice + constant + input
      let s0 := turn s.a 2 ^^^ turn s.a 13 ^^^ turn s.a 22
      let majority := (s.a &&& s.b) ^^^ (s.a &&& s.c) ^^^ (s.b &&& s.c)
      ⟨(t1 + (s0 + majority)) % 2 ^ 32, s.a, s.b, s.c, (s.d + t1) % 2 ^ 32, s.e, s.f, s.g⟩ := rfl
  simp (disch := decide) only [heq, Words.numbers, round, UInt32.toNat_add, UInt32.toNat_xor,
    UInt32.toNat_and, UInt32.toNat_not, toNat_rotate, Nat.mod_add_mod, Nat.add_mod_mod]
  rfl

theorem rounds_numbers (s : Words) {words : List UInt32} (hlength : words.length = 64)
    {count : Nat} (hcount : count ≤ 64) :
    s.numbers.rounds (packed words.reverse) count =
      (((roundConstants.zip words).take count).foldl round s).numbers := by
  have hconstants : roundConstants.length = 64 := rfl
  induction count with
  | zero => rfl
  | succ count ih =>
      have hconstant : count < roundConstants.length := hcount
      have hinput : count < words.length := by omega
      have hzip : count < (roundConstants.zip words).length := by
        rw [List.length_zip]
        omega
      rw [List.take_succ_eq_append_getElem hzip, List.foldl_append, List.foldl_cons,
        List.foldl_nil, List.getElem_zip, ← round_numbers, ← ih (by omega),
        ← digit_packed_reverse hlength hinput, ← digit_packed_reverse hconstants hconstant]
      rfl

/-- The words of a block spell what its bytes spell. -/
theorem packed_wordsOf {block : List UInt8} (hlength : block.length = 64) :
    packed (wordsOf block).reverse = Bytes.toNat block := by
  have hfront (count : Nat) (hcount : 4 * count ≤ block.length) :
      packed ((List.range count).map fun i =>
        UInt32.ofNat (Bytes.toNat ((block.drop (4 * i)).take 4))).reverse =
        Bytes.toNat (block.take (4 * count)) := by
    induction count with
    | zero => rfl
    | succ count ih =>
        have hfour : 4 * (count + 1) = 4 * count + 4 := Nat.mul_succ 4 count
        have hword : ((block.drop (4 * count)).take 4).length = 4 := by
          rw [List.length_take, List.length_drop]
          omega
        have hlt := Bytes.toNat_lt ((block.drop (4 * count)).take 4)
        rw [hword, Nat.one_shiftLeft] at hlt
        rw [List.range_succ, List.map_append, List.reverse_append, List.map_singleton,
          List.reverse_singleton, List.singleton_append, packed_cons, ih (by omega), hfour,
          UInt32.toNat_ofNat', Nat.mod_eq_of_lt hlt, List.take_add, Bytes.toNat_append, hword]
  rw [wordsOf, hfront 16 (by omega), List.take_of_length_le (by omega)]

theorem spell_toNat (words : List UInt32) : spell (words.map UInt32.toNat) =
    words.foldl (fun acc w => acc <<< 32 + w.toNat) 0 := by
  have hstep (n : Nat) (w : UInt32) : (n.mul 4294967296).add w.toNat = n <<< 32 + w.toNat := by
    rw [Nat.shiftLeft_eq]
    rfl
  simp only [spell, List.foldl_map, hstep]

theorem digest_numbers (s : Words) {block : List UInt8} (hlength : block.length = 64) :
    s.numbers.digest (Bytes.toNat block) =
      let t := compress s block
      [t.a, t.b, t.c, t.d, t.e, t.f, t.g, t.h].foldl (fun acc w => acc <<< 32 + w.toNat) 0 := by
  have hwords : (extend 48 (wordsOf block).reverse).reverse.length = 64 := by
    rw [List.length_reverse, length_extend, List.length_reverse, wordsOf, List.length_map,
      List.length_range]
  have hall : (roundConstants.zip (extend 48 (wordsOf block).reverse).reverse).length ≤ 64 := by
    rw [List.length_zip, hwords]
    exact Nat.min_le_right _ _
  have hrounds := rounds_numbers s hwords (Nat.le_refl 64)
  rw [List.reverse_reverse, ← extendDigits_packed, packed_wordsOf hlength,
    List.take_of_length_le hall] at hrounds
  have hlow (x y : UInt32) : low (x.toNat.add y.toNat) = (x + y).toNat :=
    (UInt32.toNat_add x y).symm
  rw [Numbers.digest, hrounds]
  simp only [Words.numbers, hlow]
  exact spell_toNat [_, _, _, _, _, _, _, _]

/-! ## Messages of one block -/

theorem length_padding {length : Nat} (h : length < 56) :
    length + (padding length).length = 64 := by
  rw [padding, List.cons_append, List.length_cons, List.length_append, List.length_replicate,
    Bytes.length_ofNat]
  omega

theorem absorb_block (s : Words) {block : List UInt8} (h : block.length = 64) :
    absorb s block = compress s block := by
  have hempty : ([] : List UInt8).length < 64 := by decide
  rw [absorb, if_neg (by omega), List.take_of_length_le (by omega),
    List.drop_eq_nil_of_le (by omega), absorb, if_pos hempty]

theorem quick_eq (message : List UInt8) : quick message = sha256 message := by
  unfold quick
  split
  · next hshort =>
      have hblock : (message ++ padding message.length).length = 64 := by
        rw [List.length_append, length_padding hshort]
      rw [digest_numbers initial hblock, sha256, absorb_block initial hblock]
  · rfl

end Hash.Sha256

/-! ## The permutation and its scheme -/

namespace Hash.Poseidon

/-- The constant with running number `n`. -/
def quickConstant (n : Nat) : Felt :=
  Fin.ofNat fieldPrime (Sha256.quick (("Hades" ++ toString n).toUTF8.toList))

/-- The three constants of every round, in order. -/
def quickConstants : List State :=
  (List.range (fullRounds + partialRounds + fullRounds)).map fun i =>
    ⟨quickConstant (3 * i), quickConstant (3 * i + 1), quickConstant (3 * i + 2)⟩

theorem quickConstants_eq : quickConstants = roundConstants := by
  simp only [quickConstants, roundConstants, quickConstant, constant, Sha256.quick_eq]

end Hash.Poseidon

open Hash.Poseidon in
/-- The compact scheme, its constants drawn quickly. -/
def quickScheme : Scheme CompactDigest :=
  { poseidonScheme with
    pair := fun left right => ⟨(permuteWith quickConstants ⟨left.value, right.value, 2⟩).x⟩
    many := fun
      | [d] => ⟨(permuteWith quickConstants ⟨0 + d.value, 0 + 1, 0⟩).x⟩
      | ds => poseidonScheme.many ds }

theorem quickScheme_eq : quickScheme = poseidonScheme := by
  unfold quickScheme
  simp only [Hash.Poseidon.quickConstants_eq]
  congr 1
  funext ds
  split <;> rfl

end MountainRange
