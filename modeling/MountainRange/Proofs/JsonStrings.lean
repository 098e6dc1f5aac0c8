import Mathlib.Data.List.Chain
import MountainRange.Json.Reader
import MountainRange.Json.Writer
import MountainRange.Proofs.Spelling
import MountainRange.Proofs.Steps
set_option autoImplicit false

/-!
# Strings that are written read back

A string is written letter by letter, some letters by an escape.  It reads back as the text
it was, but for two halves that follow each other and are both escaped: these arrive as the one
character they spell.
-/

namespace MountainRange

/-! ## Halves that follow each other -/

namespace Surrogate

theorem isFirst_iff {n : Nat} : isFirst n = true ↔ 0xD800 ≤ n ∧ n < 0xDC00 := by
  simp [isFirst]

theorem isSecond_iff {n : Nat} : isSecond n = true ↔ 0xDC00 ≤ n ∧ n < 0xE000 := by
  simp [isSecond]

theorem isFirst_eq_false {n : Nat} (h : ¬(0xD800 ≤ n ∧ n < 0xDC00)) : isFirst n = false :=
  Bool.eq_false_iff.mpr (mt isFirst_iff.mp h)

theorem isSecond_eq_false {n : Nat} (h : ¬(0xDC00 ≤ n ∧ n < 0xE000)) : isSecond n = false :=
  Bool.eq_false_iff.mpr (mt isSecond_iff.mp h)

theorem isFirst_char (c : Char) : isFirst c.toNat = false := by
  have hc := Letter.not_isSurrogate_toNat c
  simp only [IsSurrogate] at hc
  exact isFirst_eq_false (by omega)

theorem isSecond_char (c : Char) : isSecond c.toNat = false := by
  have hc := Letter.not_isSurrogate_toNat c
  simp only [IsSurrogate] at hc
  exact isSecond_eq_false (by omega)

end Surrogate

/-- A letter is the half of a pair only if its number is. -/
theorem Letter.isFirst_of_ofNat {n : Nat} (h : Surrogate.isFirst (ofNat n).toNat = true) :
    Surrogate.isFirst n = true := by
  unfold ofNat at h
  split at h
  · exact h
  · rw [toNat, Surrogate.isFirst_char] at h
    cases h

theorem Letter.isSecond_of_ofNat {n : Nat} (h : Surrogate.isSecond (ofNat n).toNat = true) :
    Surrogate.isSecond n = true := by
  unfold ofNat at h
  split at h
  · exact h
  · rw [toNat, Surrogate.isSecond_char] at h
    cases h

namespace Text

variable {n k : Nat} {units : List Nat}

/-- No half of the second kind stands in front. -/
def NoSecond (units : List Nat) : Prop := ∀ k ∈ units.head?, Surrogate.isSecond k = false

theorem joinHalves_cons_of_not_first (h : Surrogate.isFirst n = false) :
    joinHalves (n :: units) = .ofNat n :: joinHalves units := by
  cases units with
  | nil => rfl
  | cons k units => simp [joinHalves, h]

theorem joinHalves_cons_of_noSecond (h : NoSecond units) :
    joinHalves (n :: units) = .ofNat n :: joinHalves units := by
  cases units with
  | nil => rfl
  | cons k units => simp [joinHalves, h k rfl]

theorem joinHalves_pair (hn : Surrogate.isFirst n = true) (hk : Surrogate.isSecond k = true) :
    joinHalves (n :: k :: units) = .char (Surrogate.join n k) :: joinHalves units := by
  simp [joinHalves, hn, hk]

/-- The text as it arrives: two halves that follow each other are the character they
spell. -/
def joined (t : Text) : Text := joinHalves (t.map Letter.toNat)

/-- Joining does not bring a second half to the front. -/
theorem noSecond_joinHalves (h : NoSecond units) :
    NoSecond ((joinHalves units).map Letter.toNat) := by
  have hof : ∀ n, Surrogate.isSecond n = false →
      Surrogate.isSecond (Letter.ofNat n).toNat = false := fun n hn =>
    Bool.eq_false_iff.mpr fun hsecond =>
      Bool.eq_false_iff.mp hn (Letter.isSecond_of_ofNat hsecond)
  intro k hk
  fun_cases joinHalves units with
  | case1 => cases hk
  | case2 n =>
      obtain rfl := Option.some.inj hk
      exact hof n (h n rfl)
  | case3 n k' rest hpair =>
      simp only [joinHalves, hpair, if_true] at hk
      obtain rfl := Option.some.inj hk
      exact Surrogate.isSecond_char _
  | case4 n k' rest hpair =>
      simp only [joinHalves, hpair] at hk
      obtain rfl := Option.some.inj hk
      exact hof n (h n rfl)

/-- What has arrived once stays as it is. -/
theorem joined_joinHalves (units : List Nat) : joined (joinHalves units) = joinHalves units := by
  fun_induction joinHalves units with
  | case1 => rfl
  | case2 n => simp [joined, joinHalves, Letter.ofNat_toNat]
  | case3 n k rest hpair ih =>
      have hfirst : Surrogate.isFirst (Letter.char (Surrogate.join n k)).toNat = false :=
        Surrogate.isFirst_char _
      rw [joined, List.map_cons, joinHalves_cons_of_not_first hfirst, Letter.ofNat_toNat]
      exact congrArg _ ih
  | case4 n k rest hpair ih =>
      rw [joined, List.map_cons]
      have hstep :
          joinHalves ((Letter.ofNat n).toNat :: (joinHalves (k :: rest)).map Letter.toNat) =
            .ofNat (Letter.ofNat n).toNat ::
              joinHalves ((joinHalves (k :: rest)).map Letter.toNat) := by
        cases hfirst : Surrogate.isFirst (Letter.ofNat n).toNat with
        | false => exact joinHalves_cons_of_not_first hfirst
        | true =>
            refine joinHalves_cons_of_noSecond (noSecond_joinHalves fun k' hk' => ?_)
            obtain rfl := Option.some.inj hk'
            have hn := Letter.isFirst_of_ofNat hfirst
            simpa [hn] using hpair
      rw [hstep, Letter.ofNat_toNat]
      exact congrArg _ ih

theorem joined_cons_char (c : Char) (t : Text) : joined (.char c :: t) = .char c :: joined t := by
  rw [joined, List.map_cons, Letter.toNat, joinHalves_cons_of_not_first (Surrogate.isFirst_char c)]
  exact congrArg (· :: _) (Letter.ofNat_toNat (.char c))

/-- No first half of a character is followed by a second one. -/
def IsUnpaired (t : Text) : Prop :=
  t.IsChain fun c d => ¬(Surrogate.isFirst c.toNat ∧ Surrogate.isSecond d.toNat)

instance (t : Text) : Decidable t.IsUnpaired := inferInstanceAs (Decidable (List.IsChain _ t))

theorem joinHalves_eq_map_iff : joinHalves units = units.map .ofNat ↔
    units.IsChain fun n k => ¬(Surrogate.isFirst n ∧ Surrogate.isSecond k) := by
  fun_induction joinHalves units with
  | case1 => simp
  | case2 n => simp
  | case3 n k rest hpair =>
      rw [Bool.and_eq_true] at hpair
      have hfirst := Surrogate.isFirst_iff.mp hpair.1
      have hhalf : IsSurrogate n := ⟨hfirst.1, by omega⟩
      simp [Letter.ofNat, hhalf, hpair]
  | case4 n k rest hpair ih =>
      rw [Bool.and_eq_true] at hpair
      rw [List.map_cons, List.cons.injEq, eq_self, true_and, ih, List.isChain_cons_cons,
        and_iff_right hpair]

/-- A text arrives as it is, unless it holds the halves of a character one after the other. -/
theorem joined_eq_self_iff {t : Text} : t.joined = t ↔ t.IsUnpaired := by
  have hmap : (t.map Letter.toNat).map Letter.ofNat = t := by
    rw [List.map_map]
    exact (List.map_congr_left fun c _ => Letter.ofNat_toNat c).trans (List.map_id t)
  calc t.joined = t
      ↔ joinHalves (t.map Letter.toNat) = (t.map Letter.toNat).map .ofNat := by rw [hmap, joined]
    _ ↔ t.IsUnpaired := joinHalves_eq_map_iff.trans (List.isChain_map _)

/-- A text of characters arrives as it is. -/
theorem joined_of_encodable {t : Text} (h : ∀ c ∈ t, c.isSurrogate = false) : joined t = t := by
  induction t with
  | nil => rfl
  | cons c t ih =>
      obtain ⟨hc, ht⟩ := List.forall_mem_cons.mp h
      rcases c with c | s
      · rw [joined_cons_char, ih ht]
      · cases hc

end Text

namespace Json

/-! ## The halves of a letter -/

/-- The numbers that a letter is escaped with: its own, or those of its two halves. -/
def unitsOf (c : Letter) : List Nat :=
  if c.toNat < 0x10000 then [c.toNat]
  else [0xD800 + (c.toNat - 0x10000) / 0x400, 0xDC00 + (c.toNat - 0x10000) % 0x400]

variable {escaped : Bool} {c : Letter} {t : Text}

/-- The half of a character is escaped alone. -/
theorem unitsOf_of_lt (h : c.toNat < 0x10000) : unitsOf c = [c.toNat] := if_pos h

theorem noSecond_unitsOf {units : List Nat} (h : Surrogate.isSecond c.toNat = false) :
    Text.NoSecond (unitsOf c ++ units) := by
  have hc := c.toNat_lt
  intro k hk
  unfold unitsOf at hk
  split at hk
  · obtain rfl := Option.some.inj hk
    exact h
  · obtain rfl := Option.some.inj hk
    exact Surrogate.isSecond_eq_false (by omega)

theorem join_halves {n : Nat} (hlow : 0x10000 ≤ n) (hhigh : n < 0x110000) :
    Surrogate.join (0xD800 + (n - 0x10000) / 0x400) (0xDC00 + (n - 0x10000) % 0x400) =
      Char.ofNat n := by
  exact congrArg Char.ofNat (by omega)

/-- Halves that were written for one letter are read as that letter. -/
theorem joinHalves_unitsOf (units : List Nat) (h : Surrogate.isFirst c.toNat = false) :
    Text.joinHalves (unitsOf c ++ units) = c :: Text.joinHalves units := by
  have hc := c.toNat_lt
  unfold unitsOf
  split
  · rw [List.singleton_append, Text.joinHalves_cons_of_not_first h, Letter.ofNat_toNat]
  · next hbeyond =>
      have hbeyond : 0x10000 ≤ c.toNat := Nat.le_of_not_lt hbeyond
      have hnot : ¬IsSurrogate c.toNat := by
        simp only [IsSurrogate]
        omega
      have hletter := Letter.ofNat_toNat c
      rw [Letter.ofNat, dif_neg hnot] at hletter
      show Text.joinHalves (_ :: _ :: units) = _
      rw [Text.joinHalves_pair (Surrogate.isFirst_iff.mpr (by omega))
        (Surrogate.isSecond_iff.mpr (by omega)), join_halves hbeyond hc, hletter]

/-- What a text is escaped with is read as the text that arrives. -/
theorem joinHalves_flatMap_unitsOf (t : Text) : Text.joinHalves (t.flatMap unitsOf) = t.joined := by
  match t with
  | [] => rfl
  | c :: t =>
      cases hfirst : Surrogate.isFirst c.toNat with
      | false =>
          rw [List.flatMap_cons, joinHalves_unitsOf _ hfirst, joinHalves_flatMap_unitsOf t,
            Text.joined, Text.joined, List.map_cons, Text.joinHalves_cons_of_not_first hfirst,
            Letter.ofNat_toNat]
      | true =>
          have hhalf := Surrogate.isFirst_iff.mp hfirst
          rw [List.flatMap_cons, unitsOf_of_lt (by omega), List.singleton_append]
          match t with
          | [] => rfl
          | d :: t =>
              cases hsecond : Surrogate.isSecond d.toNat with
              | false =>
                  have hback := joinHalves_flatMap_unitsOf (d :: t)
                  rw [List.flatMap_cons] at hback ⊢
                  rw [Text.joinHalves_cons_of_noSecond (noSecond_unitsOf hsecond), hback,
                    Text.joined, Text.joined, List.map_cons (a := c),
                    Text.joinHalves_cons_of_noSecond (n := c.toNat)]
                  intro k hk
                  obtain rfl := Option.some.inj hk
                  exact hsecond
              | true =>
                  have hother := Surrogate.isSecond_iff.mp hsecond
                  rw [List.flatMap_cons, unitsOf_of_lt (by omega), List.singleton_append,
                    Text.joinHalves_pair hfirst hsecond, joinHalves_flatMap_unitsOf t,
                    Text.joined, Text.joined, List.map_cons, List.map_cons,
                    Text.joinHalves_pair hfirst hsecond]

/-! ## Pieces -/

namespace Piece

/-- The number of a piece. -/
def number : Piece → Nat
  | .letter c => c.toNat
  | .unit n => n

/-- A piece that is no half of a character which stands as it is. -/
def IsPlain : Piece → Prop
  | .letter c => c.isSurrogate = false
  | .unit _ => True

/-- Whether a piece is the escape of a first half. -/
def isFirst : Piece → Bool
  | .letter _ => false
  | .unit n => Surrogate.isFirst n

end Piece

variable {p : Piece} {pieces : List Piece}

theorem joinPieces_cons_of_not_first (h : p.isFirst = false) :
    joinPieces (p :: pieces) = p.toLetter :: joinPieces pieces := by
  match p, pieces with
  | .letter c, _ => rfl
  | .unit n, [] => rfl
  | .unit n, .letter c :: _ => rfl
  | .unit n, .unit k :: rest =>
      have hn : Surrogate.isFirst n = false := h
      simp [joinPieces, hn, Piece.toLetter]

theorem isFirst_of_isSurrogate (h : c.isSurrogate = false) : Surrogate.isFirst c.toNat = false := by
  cases c with
  | char c => exact Surrogate.isFirst_char c
  | surrogate half => cases h

theorem isSecond_of_isSurrogate (h : c.isSurrogate = false) :
    Surrogate.isSecond c.toNat = false := by
  cases c with
  | char c => exact Surrogate.isSecond_char c
  | surrogate half => cases h

/-- Among plain pieces all halves are escapes, so joining pieces is joining their numbers. -/
theorem joinPieces_of_isPlain (h : ∀ p ∈ pieces, Piece.IsPlain p) :
    joinPieces pieces = Text.joinHalves (pieces.map Piece.number) := by
  fun_induction joinPieces pieces with
  | case1 => rfl
  | case2 n k rest hpair ih =>
      obtain ⟨-, -, hrest⟩ := List.forall_mem_cons.mp h |>.imp_right List.forall_mem_cons.mp
      show _ = Text.joinHalves (n :: k :: rest.map Piece.number)
      rw [ih hrest, Text.joinHalves, if_pos hpair]
  | case3 n k rest hpair ih =>
      show _ = Text.joinHalves (n :: k :: rest.map Piece.number)
      rw [ih (List.forall_mem_cons.mp h).2, Text.joinHalves, if_neg hpair]
      rfl
  | case4 p rest hpair ih =>
      obtain ⟨hp, hrest⟩ := List.forall_mem_cons.mp h
      rw [ih hrest, List.map_cons]
      cases p with
      | letter c =>
          rw [Piece.number, Text.joinHalves_cons_of_not_first (isFirst_of_isSurrogate hp),
            Letter.ofNat_toNat, Piece.toLetter]
      | unit n =>
          rw [Piece.number, Text.joinHalves_cons_of_noSecond, Piece.toLetter]
          intro k hk
          cases rest with
          | nil => cases hk
          | cons q rest =>
              obtain rfl := Option.some.inj hk
              cases q with
              | letter c => exact isSecond_of_isSurrogate (hrest (.letter c) List.mem_cons_self)
              | unit m => exact absurd rfl (hpair n m rest rfl)

/-! ## What is written -/

/-- The letters with an escape of two characters. -/
def shortLetters : Text := ['"', '\\', '\n', '\r', '\t', '\x08', '\x0c']

/-- The pieces that a letter is written in. -/
def piecesOf (escaped : Bool) (c : Letter) : List Piece :=
  if c ∈ shortLetters then [.letter c]
  else if c.toNat < 0x20 ∨ (escaped ∧ 0x7F ≤ c.toNat) then (unitsOf c).map .unit
  else [.letter c]

theorem piecesOf_escaped (c : Letter) :
    c.toNat < 0x7F ∧ piecesOf true c = [.letter c] ∨
      piecesOf true c = (unitsOf c).map .unit := by
  have hshort : ∀ d ∈ shortLetters, d.toNat < 0x7F := by decide
  unfold piecesOf
  split
  · next hc => exact .inl ⟨hshort c hc, rfl⟩
  · split
    · exact .inr rfl
    · next hplain =>
        simp only [true_and, not_or, Nat.not_le] at hplain
        exact .inl ⟨hplain.2, rfl⟩

theorem piecesOf_unescaped (c : Letter) :
    ∃ p : Piece, piecesOf false c = [p] ∧ p.toLetter = c ∧ p.isFirst = false := by
  unfold piecesOf
  split
  · exact ⟨.letter c, rfl, rfl, rfl⟩
  · split
    · next hcontrol =>
        have hsmall : c.toNat < 0x20 := by simpa using hcontrol
        rw [unitsOf_of_lt (by omega)]
        exact ⟨.unit c.toNat, rfl, Letter.ofNat_toNat c, Surrogate.isFirst_eq_false (by omega)⟩
    · exact ⟨.letter c, rfl, rfl, rfl⟩

/-- A text that is written escaped is read as the text that arrives, and any other as it is. -/
theorem joinPieces_flatMap_piecesOf (escaped : Bool) (t : Text) :
    joinPieces (t.flatMap (piecesOf escaped)) = if escaped then t.joined else t := by
  cases escaped with
  | true =>
      have hpieces : ∀ c : Letter, (∀ p ∈ piecesOf true c, Piece.IsPlain p) ∧
          (piecesOf true c).map Piece.number = unitsOf c := by
        intro c
        rcases piecesOf_escaped c with ⟨hc, hletter⟩ | hunits
        · have hchar : c.isSurrogate = false := by
            rcases c with c | half
            · rfl
            · exact absurd hc (Nat.not_lt_of_le (Nat.le_trans (by decide) half.property.1))
          rw [hletter, unitsOf_of_lt (by omega)]
          exact ⟨by simpa [Piece.IsPlain] using hchar, rfl⟩
        · rw [hunits, List.map_map]
          exact ⟨by simp [Piece.IsPlain], List.map_id _⟩
      rw [joinPieces_of_isPlain, List.map_flatMap, if_pos rfl, ← joinHalves_flatMap_unitsOf]
      · simp only [(hpieces _).2]
      · intro p hp
        obtain ⟨c, -, hp⟩ := List.mem_flatMap.mp hp
        exact (hpieces c).1 p hp
  | false =>
      rw [if_neg Bool.false_ne_true]
      induction t with
      | nil => rfl
      | cons c t ih =>
          obtain ⟨p, hp, hletter, hfirst⟩ := piecesOf_unescaped c
          rw [List.flatMap_cons, hp, List.singleton_append, joinPieces_cons_of_not_first hfirst,
            hletter, ih]

/-! ## Escapes -/

theorem unit?_hexDigits {n : Nat} (h : n < 0x10000) : ∃ a b c d : Letter,
    Text.ofChars (Text.hexDigits 4 n) = [a, b, c, d] ∧ unit? a b c d = some n := by
  have hdigit : ∀ k, Text.hexDigit? (.char (Nat.digitChar (k % 16))) = some (k % 16) :=
    fun k => Text.hexDigit?_digitChar (Nat.mod_lt _ (by decide))
  refine ⟨_, _, _, _, rfl, ?_⟩
  simp only [unit?, hdigit]
  refine congrArg some ?_
  omega

variable {start : Nat} {rest after : Text}

/-- A numbered escape is read as its number. -/
theorem readPieces_writeUnit {n : Nat} (hn : n < 0x10000)
    (h : readPieces start rest = .ok (pieces, after)) :
    readPieces start (Text.ofChars (writeUnit n) ++ rest) = .ok (.unit n :: pieces, after) := by
  obtain ⟨a, b, c, d, hdigits, hunit⟩ := unit?_hexDigits hn
  have hwritten : Text.ofChars (writeUnit n) = .char '\\' :: .char 'u' :: [a, b, c, d] := by
    rw [← hdigits]
    rfl
  cases rest with
  | nil => cases h
  | cons e rest =>
      rw [hwritten]
      show readPieces start (.char '\\' :: .char 'u' :: a :: b :: c :: d :: e :: rest) = _
      rw [readPieces, hunit]
      dsimp only
      rw [h]
      rfl

/-- The escape of a letter is read as its number, or as those of its two halves. -/
theorem readPieces_writeEscape (c : Letter) (h : readPieces start rest = .ok (pieces, after)) :
    readPieces start (Text.ofChars (writeEscape c) ++ rest) =
      .ok ((unitsOf c).map .unit ++ pieces, after) := by
  have hbound := c.toNat_lt
  unfold writeEscape unitsOf
  split
  · next hc => exact readPieces_writeUnit hc h
  · rw [Text.ofChars, List.map_append, List.append_assoc]
    exact readPieces_writeUnit (by omega) (readPieces_writeUnit (by omega) h)

/-- A letter that is written as it is is read as it is. -/
theorem readPieces_cons (hquote : c ≠ '"') (hslash : c ≠ '\\') (hcontrol : ¬c.toNat < 0x20)
    (h : readPieces start rest = .ok (pieces, after)) :
    readPieces start (c :: rest) = .ok (.letter c :: pieces, after) := by
  rw [readPieces, if_neg hcontrol, h]
  · rfl
  · exact hquote
  · intro hback
    exact absurd hback hslash
  · intro _ _ _ _ _ _ hback
    exact absurd hback hslash
  · intro _ hback
    exact absurd hback hslash
  · intro _ _ hback
    exact absurd hback hslash

/-- An escape of two characters is read as the character it stands for. -/
theorem readPieces_shortEscape {x : Char} (hx : shortEscape? c = some x)
    (h : readPieces start rest = .ok (pieces, after)) :
    readPieces start (.char '\\' :: c :: rest) = .ok (.letter x :: pieces, after) := by
  have hnumbered : c ≠ 'u' := by
    rintro rfl
    cases hx
  rw [readPieces, hx]
  · dsimp only
    rw [h]
    rfl
  · intro _ _ _ _ _ _ hu
    exact absurd hu hnumbered
  · exact hnumbered

theorem writeLetter_of_short (escaped : Bool) (hc : c ∈ shortLetters) :
    ∃ d x, writeLetter escaped c = [.char '\\', d] ∧ shortEscape? d = some x ∧ c = .char x := by
  simp only [shortLetters, List.mem_cons, List.not_mem_nil, or_false] at hc
  rcases hc with rfl | rfl | rfl | rfl | rfl | rfl | rfl <;> exact ⟨_, _, rfl, rfl, rfl⟩

theorem writeLetter_of_not_short (escaped : Bool) (hc : c ∉ shortLetters) :
    writeLetter escaped c =
      if c.toNat < 0x20 ∨ (escaped ∧ 0x7F ≤ c.toNat) then Text.ofChars (writeEscape c)
      else [c] := by
  simp only [shortLetters, List.mem_cons, List.not_mem_nil, or_false, not_or] at hc
  obtain ⟨hquote, hslash, hfeed, hreturn, htab, hback, hform⟩ := hc
  rw [writeLetter, if_neg (not_or.mpr ⟨hquote, hslash⟩), if_neg hfeed, if_neg hreturn,
    if_neg htab, if_neg hback, if_neg hform]

/-- A letter of a string is read as the pieces it is written in. -/
theorem readPieces_writeLetter (escaped : Bool) (c : Letter)
    (h : readPieces start rest = .ok (pieces, after)) :
    readPieces start (writeLetter escaped c ++ rest) =
      .ok (piecesOf escaped c ++ pieces, after) := by
  unfold piecesOf
  split
  · next hshort =>
      obtain ⟨d, x, hwritten, hx, rfl⟩ := writeLetter_of_short escaped hshort
      rw [hwritten]
      exact readPieces_shortEscape hx h
  · next hshort =>
      rw [writeLetter_of_not_short escaped hshort]
      split
      · exact readPieces_writeEscape c h
      · next hshown =>
          have hother : ∀ d ∈ shortLetters, c ≠ d := fun d hd heq => hshort (heq ▸ hd)
          exact readPieces_cons (hother _ (by decide)) (hother _ (by decide))
            (not_or.mp hshown).1 h

theorem readPieces_flatMap_writeLetter (start : Nat) (escaped : Bool) (t rest : Text) :
    readPieces start (t.flatMap (writeLetter escaped) ++ .char '"' :: rest) =
      .ok (t.flatMap (piecesOf escaped), rest) := by
  induction t with
  | nil =>
      unfold readPieces
      rfl
  | cons c t ih =>
      rw [List.flatMap_cons, List.flatMap_cons, List.append_assoc]
      exact readPieces_writeLetter escaped c ih

/-- A string reads back as the text that arrives if it is written escaped, and else as the
text it was. -/
theorem readString_write (escaped : Bool) (t rest : Text) :
    readString (t.flatMap (writeLetter escaped) ++ .char '"' :: rest) =
      .ok (if escaped then t.joined else t, rest) := by
  rw [readString, readPieces_flatMap_writeLetter]
  show Except.ok (joinPieces _, rest) = _
  rw [joinPieces_flatMap_piecesOf]

/-- A text without halves to join reads back as it is. -/
theorem readString_write_of_joined (escaped : Bool) (ht : t.joined = t) (rest : Text) :
    readString (t.flatMap (writeLetter escaped) ++ .char '"' :: rest) = .ok (t, rest) := by
  rw [readString_write, ht, ite_self]

end Json

end MountainRange
