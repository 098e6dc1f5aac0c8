import Mathlib.Algebra.Group.Nat.Defs
import MountainRange.Files
import MountainRange.Proofs.Display
import MountainRange.Proofs.Steps
set_option autoImplicit false

/-!
# Bytes that are read as characters

Taking bytes apart loses none of them, and the bytes of a character come out as that character.
So bytes are read as a text exactly if they are the bytes of the text, and an error names the
first ones that spell nothing by their place.
-/

namespace MountainRange

namespace Text

/-! ## Characters of several bytes -/

/-- The last bytes of a number, each with six bits of it. -/
def continuation : (count : Nat) → (n : Nat) → List UInt8
  | 0, _ => []
  | count + 1, n => .ofNat (n / 64 ^ count % 64 + 0x80) :: continuation count n

/-- A byte is the first one of the bytes of a number, so many of which go on with it. -/
def Leads (b : UInt8) (count n : Nat) : Prop :=
  (0x80 ≤ n ∧ n ≤ 0x7FF ∧ count = 1 ∧ b.toNat = n / 64 + 0xC0) ∨
  (0x800 ≤ n ∧ n ≤ 0xFFFF ∧ count = 2 ∧ b.toNat = n / 4096 + 0xE0) ∨
  (0x10000 ≤ n ∧ n ≤ 0x10FFFF ∧ count = 3 ∧ b.toNat = n / 262144 + 0xF0)

variable {b : UInt8} {count n : Nat}

theorem utf8EncodeChar_of_leads {c : Char} (h : Leads b count c.toNat) :
    String.utf8EncodeChar c = b :: continuation count c.toNat := by
  have hval : c.val.toNat = c.toNat := rfl
  have hfirst : ∀ k, b.toNat = k → UInt8.ofNat k = b := by
    rintro k rfl
    exact UInt8.ofNat_toNat
  unfold String.utf8EncodeChar
  simp only [hval]
  rcases h with ⟨hlow, hhigh, rfl, hb⟩ | ⟨hlow, hhigh, rfl, hb⟩ | ⟨hlow, hhigh, rfl, hb⟩
  · rw [if_neg (by omega), if_pos hhigh, hfirst _ (by omega)]
    simp [continuation]
  · rw [if_neg (by omega), if_neg (by omega), if_pos hhigh, hfirst _ (by omega)]
    simp [continuation]
  · rw [if_neg (by omega), if_neg (by omega), if_neg (by omega), hfirst _ (by omega)]
    simp [continuation]

theorem exists_leads {c : Char} (h : 0x80 ≤ c.toNat) : ∃ b count, Leads b count c.toNat := by
  have hc : c.toNat < 0x110000 := Letter.toNat_lt (.char c)
  have hbyte : ∀ k < 256, (UInt8.ofNat k).toNat = k := fun k hk => by
    rw [UInt8.toNat_ofNat', Nat.mod_eq_of_lt hk]
  by_cases htwo : c.toNat ≤ 0x7FF
  · exact ⟨_, _, .inl ⟨h, htwo, rfl, hbyte _ (by omega)⟩⟩
  by_cases hthree : c.toNat ≤ 0xFFFF
  · exact ⟨_, _, .inr (.inl ⟨by omega, hthree, rfl, hbyte _ (by omega)⟩)⟩
  · exact ⟨_, _, .inr (.inr ⟨by omega, by omega, rfl, hbyte _ (by omega)⟩)⟩

namespace Opened

variable {start : Opened}

/-- A number is among those that the start of a character can come to. -/
def Reaches (start : Opened) (n : Nat) : Prop :=
  start.value * 64 + start.least ≤ n / 64 ^ (start.owed - 1) + 0x80 ∧
    n / 64 ^ (start.owed - 1) + 0x80 ≤ start.value * 64 + start.greatest

/-- A byte that leads a character can start one, which can come to the character. -/
theorem exists_ofFirst? (h : Leads b count n) (hn : ¬IsSurrogate n) :
    ∃ start, ofFirst? b = some start ∧ start.owed = count ∧ start.Reaches n := by
  simp only [IsSurrogate] at hn
  simp only [Leads] at h
  unfold ofFirst?
  simp only [Bool.and_eq_true, decide_eq_true_eq]
  repeat' split
  all_goals try omega
  all_goals
    refine ⟨_, rfl, by dsimp only; omega, ?_⟩
    simp only [Reaches, Nat.reduceSub, Nat.reducePow]
    omega

/-- Whatever the character that a byte starts can come to is a character that it leads. -/
theorem leads_of_ofFirst? (h : ofFirst? b = some start) (hn : start.Reaches n) :
    ¬IsSurrogate n ∧ Leads b start.owed n := by
  unfold ofFirst? at h
  simp only [Bool.and_eq_true, decide_eq_true_eq] at h
  repeat' split at h
  all_goals cases h
  all_goals
    simp only [Reaches, Nat.reduceSub, Nat.reducePow, Nat.div_one] at hn
    refine ⟨by simp only [IsSurrogate]; omega, ?_⟩
    first
      | exact .inl ⟨by omega, by omega, rfl, by omega⟩
      | exact .inr (.inl ⟨by omega, by omega, rfl, by omega⟩)
      | exact .inr (.inr ⟨by omega, by omega, rfl, by omega⟩)

/-- The start of a character with one more byte. -/
def next (start : Opened) (b : UInt8) : Opened :=
  ⟨start.bytes ++ [b], start.value * 0x40 + (b.toNat - 0x80), start.owed - 1, 0x80, 0xBF⟩

theorem add_eq (hlow : start.least ≤ b.toNat) (hhigh : b.toNat ≤ start.greatest) :
    start.add b =
      if start.owed ≤ 1 then ([.letter (.ofNat (start.next b).value)], none)
      else ([], some (start.next b)) := by
  have hrange : (start.least ≤ b.toNat && b.toNat ≤ start.greatest) = true := by
    rw [decide_eq_true hlow, decide_eq_true hhigh, Bool.and_self]
  rw [add, if_pos hrange]
  rfl

/-- What was read of a character: whatever character it can come to, it is the start of the bytes
of that. -/
structure IsSound (start : Opened) : Prop where
  owed : 1 ≤ start.owed
  least : 0x80 ≤ start.least
  greatest : start.greatest ≤ 0xBF
  bytes : ∀ n, start.Reaches n → ∃ c : Char, c.toNat = n ∧
    String.utf8EncodeChar c = start.bytes ++ continuation start.owed n

theorem exists_char (h : n < 0x110000) (hn : ¬IsSurrogate n) : ∃ c : Char, c.toNat = n := by
  have hletter := Letter.toNat_ofNat h
  rw [Letter.ofNat, dif_neg hn] at hletter
  exact ⟨_, hletter⟩

theorem isSound_of_ofFirst? (h : ofFirst? b = some start) : start.bytes = [b] ∧ start.IsSound := by
  have hbytes : ∀ n, start.Reaches n → ∃ c : Char, c.toNat = n ∧
      String.utf8EncodeChar c = [b] ++ continuation start.owed n := by
    intro n hn
    obtain ⟨hsurrogate, hleads⟩ := leads_of_ofFirst? h hn
    obtain ⟨c, rfl⟩ := exists_char (by simp only [Leads] at hleads; omega) hsurrogate
    exact ⟨c, rfl, utf8EncodeChar_of_leads hleads⟩
  obtain ⟨hb, howed, hleast, hgreatest⟩ : start.bytes = [b] ∧ 1 ≤ start.owed ∧
      0x80 ≤ start.least ∧ start.greatest ≤ 0xBF := by
    unfold ofFirst? at h
    simp only [Bool.and_eq_true, decide_eq_true_eq] at h
    repeat' split at h
    all_goals cases h
    all_goals exact ⟨rfl, by simp, by simp, by simp⟩
  exact ⟨hb, howed, hleast, hgreatest, hb ▸ hbytes⟩

/-- A byte that may come next is the next one of whatever character has its bits there. -/
theorem IsSound.exists_of_byte (h : start.IsSound) (hlow : start.least ≤ b.toNat)
    (hhigh : b.toNat ≤ start.greatest) {count : Nat} (howed : start.owed = count + 1)
    (hn : n / 64 ^ count = start.value * 64 + (b.toNat - 0x80)) : ∃ c : Char, c.toNat = n ∧
      String.utf8EncodeChar c = start.bytes ++ [b] ++ continuation count n := by
  have hleast := h.least
  have hgreatest := h.greatest
  obtain ⟨c, hc, hencode⟩ := h.bytes n (by
    simp only [Reaches, howed, Nat.add_sub_cancel, hn]
    omega)
  have hb : UInt8.ofNat (n / 64 ^ count % 64 + 0x80) = b := by
    have hmod : n / 64 ^ count % 64 + 0x80 = b.toNat := by
      rw [hn]
      omega
    rw [hmod, UInt8.ofNat_toNat]
  rw [howed, continuation, hb] at hencode
  exact ⟨c, hc, by rw [hencode, List.append_cons]⟩

theorem div_eq_of_next_reaches {count : Nat} (howed : start.owed = count + 2)
    (hn : (start.next b).Reaches n) :
    n / 64 ^ (count + 1) = start.value * 64 + (b.toNat - 0x80) := by
  have hcount : start.owed - 1 - 1 = count := by omega
  simp only [Reaches, next, hcount] at hn
  rw [Nat.pow_succ, ← Nat.div_div_eq_div_mul]
  omega

theorem IsSound.next (h : start.IsSound) (hlow : start.least ≤ b.toNat)
    (hhigh : b.toNat ≤ start.greatest) (howed : ¬start.owed ≤ 1) : (start.next b).IsSound := by
  obtain ⟨count, hcount⟩ : ∃ count, start.owed = count + 2 := ⟨start.owed - 2, by omega⟩
  refine ⟨?_, Nat.le_refl _, Nat.le_refl _, fun n hn => ?_⟩
  · show 1 ≤ start.owed - 1
    omega
  · have howed' : (start.next b).owed = count + 1 := by
      show start.owed - 1 = count + 1
      omega
    rw [howed']
    exact h.exists_of_byte hlow hhigh hcount (div_eq_of_next_reaches hcount hn)

end Opened

/-! ## Chunks -/

/-- The bytes of a chunk. -/
def Chunk.bytes : Chunk → List UInt8
  | .letter (.char c) => String.utf8EncodeChar c
  | .letter (.surrogate _) => []
  | .spoiled bytes => bytes

/-- A chunk that is no surrogate. -/
def Chunk.IsGenuine : Chunk → Prop
  | .letter c => c.isSurrogate = false
  | .spoiled _ => True

/-- Chunks and the start of a character account for bytes. -/
structure Accounts (bytes : List UInt8) (read : List Chunk × Option Opened) : Prop where
  bytes : read.1.flatMap Chunk.bytes ++ read.2.elim [] Opened.bytes = bytes
  genuine : ∀ chunk ∈ read.1, chunk.IsGenuine
  sound : ∀ start ∈ read.2, start.IsSound

/-- Chunks alone account for their bytes. -/
theorem accounts_of_chunks {bytes : List UInt8} {cs : List Chunk}
    (h : cs.flatMap Chunk.bytes = bytes) (hcs : ∀ chunk ∈ cs, chunk.IsGenuine) :
    Accounts bytes (cs, none) := by
  refine ⟨?_, hcs, by simp⟩
  rw [Option.elim_none, List.append_nil, h]

/-- What was read of a character accounts for its own bytes. -/
theorem Opened.IsSound.accounts {start : Opened} (h : start.IsSound) :
    Accounts start.bytes ([], some start) :=
  ⟨rfl, by simp, by simpa using h⟩

theorem accounts_startWith (b : UInt8) : Accounts [b] (startWith b) := by
  unfold startWith
  split
  · next hb =>
      have hsurrogate : ¬IsSurrogate b.toNat := by
        simp only [IsSurrogate]
        omega
      obtain ⟨c, hc⟩ := Opened.exists_char (by omega) hsurrogate
      have hletter : Letter.ofNat b.toNat = .char c := hc ▸ Letter.ofNat_toNat (.char c)
      have hencode : String.utf8EncodeChar c = [b] := by
        have hval : c.val.toNat = b.toNat := hc
        rw [String.utf8EncodeChar, hval, if_pos (by omega), UInt8.ofNat_toNat]
      rw [hletter]
      exact accounts_of_chunks (by simpa [Chunk.bytes] using hencode)
        (by simp [Chunk.IsGenuine, Letter.isSurrogate])
  · split
    · next start hstart =>
        obtain ⟨hbytes, hsound⟩ := Opened.isSound_of_ofFirst? hstart
        exact hbytes ▸ hsound.accounts
    · exact accounts_of_chunks rfl (by simp [Chunk.IsGenuine])

theorem Opened.IsSound.accounts_add {start : Opened} (h : start.IsSound) (b : UInt8) :
    Accounts (start.bytes ++ [b]) (start.add b) := by
  by_cases hrange : start.least ≤ b.toNat ∧ b.toNat ≤ start.greatest
  · rw [add_eq hrange.1 hrange.2]
    split
    · next howed =>
        have hlast : start.owed = 0 + 1 := Nat.le_antisymm howed h.owed
        obtain ⟨c, hc, hencode⟩ := h.exists_of_byte hrange.1 hrange.2 hlast (Nat.div_one _)
        have hletter : Letter.ofNat (start.next b).value = .char c := by
          have hvalue : (start.next b).value = c.toNat := hc.symm
          rw [hvalue]
          exact Letter.ofNat_toNat (.char c)
        rw [hletter]
        exact accounts_of_chunks (by simpa [Chunk.bytes, continuation] using hencode)
          (by simp [Chunk.IsGenuine, Letter.isSurrogate])
    · next howed => exact (h.next hrange.1 hrange.2 howed).accounts
  · obtain ⟨hbytes, hgenuine, hsound⟩ := accounts_startWith b
    have hspoiled : start.add b = (.spoiled start.bytes :: (startWith b).1, (startWith b).2) := by
      simp [add, hrange]
    rw [hspoiled]
    refine ⟨?_, List.forall_mem_cons.mpr ⟨trivial, hgenuine⟩, hsound⟩
    dsimp only
    rw [List.flatMap_cons, List.append_assoc, hbytes]
    rfl

/-- No byte is lost, and no letter is a surrogate. -/
theorem accounts_chunksFrom {opened : Option Opened} (h : ∀ start ∈ opened, start.IsSound)
    (bytes : List UInt8) :
    Accounts (opened.elim [] Opened.bytes ++ bytes) (chunksFrom opened bytes, none) := by
  have hstep : ∀ {read : List Chunk × Option Opened} {before rest : List UInt8},
      Accounts before read →
      Accounts (read.2.elim [] Opened.bytes ++ rest) (chunksFrom read.2 rest, none) →
      Accounts (before ++ rest) (read.1 ++ chunksFrom read.2 rest, none) := by
    intro read before rest hread hrest
    have hbytes := hrest.bytes
    rw [Option.elim_none, List.append_nil] at hbytes
    refine accounts_of_chunks ?_ (List.forall_mem_append.mpr ⟨hread.genuine, hrest.genuine⟩)
    rw [List.flatMap_append, hbytes, ← List.append_assoc, hread.bytes]
  induction bytes generalizing opened with
  | nil =>
      cases opened with
      | none => exact accounts_of_chunks rfl (by simp [chunksFrom])
      | some start =>
          exact accounts_of_chunks (by simp [chunksFrom, Chunk.bytes])
            (by simp [chunksFrom, Chunk.IsGenuine])
  | cons b rest ih =>
      cases opened with
      | none =>
          have hread := accounts_startWith b
          exact hstep hread (ih hread.sound)
      | some start =>
          have hread := (h start rfl).accounts_add b
          rw [Option.elim_some, List.append_cons]
          exact hstep hread (ih hread.sound)

theorem accounts_chunks (bytes : List UInt8) : Accounts bytes (chunks bytes, none) := by
  have hnone : ∀ start ∈ (none : Option Opened), start.IsSound := by simp
  exact accounts_chunksFrom hnone bytes

/-! ## Characters that are read -/

/-- The next byte of a number that a start of a character can come to may come next. -/
theorem Opened.Reaches.next_byte {start : Opened} {count n : Nat} (hn : start.Reaches n)
    (hleast : 0x80 ≤ start.least) (hgreatest : start.greatest ≤ 0xBF)
    (howed : start.owed = count + 1) :
    let b : UInt8 := .ofNat (n / 64 ^ count % 64 + 0x80)
    start.least ≤ b.toNat ∧ b.toNat ≤ start.greatest ∧ (start.next b).value = n / 64 ^ count := by
  intro b
  have hcount : start.owed - 1 = count := by omega
  have hb : b.toNat = n / 64 ^ count % 64 + 0x80 := by
    rw [UInt8.toNat_ofNat']
    omega
  simp only [Reaches, hcount] at hn
  simp only [next, hb]
  omega

/-- The last bytes of a number go on with whatever start of a character can come to it. -/
theorem Opened.chunksFrom_continuation {start : Opened} (hleast : 0x80 ≤ start.least)
    (hgreatest : start.greatest ≤ 0xBF) {count n : Nat} (howed : start.owed = count + 1)
    (hn : start.Reaches n) (rest : List UInt8) :
    chunksFrom (some start) (continuation (count + 1) n ++ rest) =
      .letter (.ofNat n) :: chunksFrom none rest := by
  induction count generalizing start with
  | zero =>
      obtain ⟨hlow, hhigh, hvalue⟩ := hn.next_byte hleast hgreatest howed
      rw [continuation, List.cons_append, chunksFrom]
      dsimp only
      rw [add_eq hlow hhigh, if_pos (by omega), hvalue, Nat.pow_zero, Nat.div_one]
      rfl
  | succ count ih =>
      obtain ⟨hlow, hhigh, hvalue⟩ := hn.next_byte hleast hgreatest howed
      rw [continuation, List.cons_append, chunksFrom]
      dsimp only
      rw [add_eq hlow hhigh, if_neg (by omega)]
      refine ih (Nat.le_refl _) (Nat.le_refl _) ?_ ?_
      · show start.owed - 1 = count + 1
        omega
      · have hcount : start.owed - 1 - 1 = count := by omega
        simp only [Reaches, hvalue]
        simp only [next, hcount]
        rw [Nat.pow_succ, ← Nat.div_div_eq_div_mul]
        omega

/-- The bytes of a character are read as that character. -/
theorem chunks_utf8EncodeChar (c : Char) (rest : List UInt8) :
    chunks (String.utf8EncodeChar c ++ rest) = .letter (.char c) :: chunks rest := by
  have hletter : Letter.ofNat c.toNat = .char c := Letter.ofNat_toNat (.char c)
  by_cases hc : 0x80 ≤ c.toNat
  · obtain ⟨b, count, hleads⟩ := exists_leads hc
    obtain ⟨start, hstart, howed, hreaches⟩ :=
      Opened.exists_ofFirst? hleads (Letter.not_isSurrogate_toNat c)
    obtain ⟨-, hsound⟩ := Opened.isSound_of_ofFirst? hstart
    obtain ⟨count, rfl⟩ : ∃ k, count = k + 1 := ⟨count - 1, by have := hsound.owed; omega⟩
    have hb : ¬b.toNat < 0x80 := by simp only [Leads] at hleads; omega
    have hfirst : startWith b = ([], some start) := by rw [startWith, if_neg hb, hstart]
    rw [utf8EncodeChar_of_leads hleads, List.cons_append, chunks, chunksFrom]
    dsimp only
    rw [hfirst, Opened.chunksFrom_continuation hsound.least hsound.greatest howed hreaches, hletter]
    rfl
  · have hb : (UInt8.ofNat c.toNat).toNat = c.toNat := by
      rw [UInt8.toNat_ofNat']
      omega
    have hval : c.val.toNat = c.toNat := rfl
    have hfirst : startWith (.ofNat c.toNat) = ([.letter (.char c)], none) := by
      rw [startWith, hb, if_pos (by omega), hletter]
    rw [String.utf8EncodeChar, hval, if_pos (by omega), List.singleton_append, chunks, chunksFrom]
    dsimp only
    rw [hfirst]
    rfl

theorem chunks_flatMap (cs : List Char) :
    chunks (cs.flatMap String.utf8EncodeChar) = (ofChars cs).map .letter := by
  induction cs with
  | nil => rfl
  | cons c cs ih =>
      rw [List.flatMap_cons, chunks_utf8EncodeChar, ih]
      rfl

/-! ## Texts that are read -/

theorem ofChunks_eq_ok_iff {position : Nat} {cs : List Chunk} {t : Text} :
    ofChunks position cs = .ok t ↔ cs = t.map .letter := by
  induction cs generalizing position t with
  | nil => cases t <;> simp [ofChunks]
  | cons chunk cs ih =>
      cases chunk with
      | spoiled bytes => cases t <;> simp [ofChunks]
      | letter c =>
          rw [ofChunks, bind_eq_ok_iff]
          cases t with
          | nil => simp [pure, Except.pure]
          | cons d t => simp [pure, Except.pure, ih, and_comm]

/-- The loop that lists bytes puts those from some place on behind what it has. -/
theorem byteArray_loop_eq (bytes : ByteArray) (i : Nat) (before : List UInt8) :
    ByteArray.toList.loop bytes i before = before.reverse ++ bytes.data.toList.drop i := by
  fun_induction ByteArray.toList.loop bytes i before with
  | case1 i before hlt ih =>
      have hlength : i < bytes.data.toList.length := by simpa using hlt
      have hget : bytes.get! i = bytes.data.toList[i] := by
        cases bytes
        exact getElem!_pos _ i hlt
      rw [ih, List.drop_eq_getElem_cons hlength, hget]
      simp
  | case2 i before hlt =>
      rw [List.drop_eq_nil_of_le (by simpa using Nat.le_of_not_lt hlt), List.append_nil]

theorem byteArray_toList_eq (bytes : ByteArray) : bytes.toList = bytes.data.toList := by
  rw [ByteArray.toList, byteArray_loop_eq]
  rfl

theorem toBytes_ofChars (cs : List Char) :
    toBytes (ofChars cs) = cs.flatMap String.utf8EncodeChar := by
  have hchars : (ofChars cs).map (fun c => c.char?.getD replacement) = cs := by
    rw [ofChars, List.map_map]
    exact List.map_id cs
  rw [toBytes, hchars]
  show (String.ofList cs).toByteArray.toList = _
  rw [String.toByteArray_ofList, List.utf8Encode, byteArray_toList_eq, List.toList_data_toByteArray]

theorem Encodable.exists_chars {t : Text} (h : t.Encodable) : ∃ cs, t = Text.ofChars cs := by
  induction t with
  | nil => exact ⟨[], rfl⟩
  | cons c t ih =>
      obtain ⟨cs, rfl⟩ := ih h.tail
      rcases c with c | half
      · exact ⟨c :: cs, rfl⟩
      · cases h.head

/-- Bytes are read as a text exactly if they are those of the text. -/
theorem decode_eq_ok_iff {bytes : List UInt8} {t : Text} :
    decode bytes = .ok t ↔ t.Encodable ∧ t.toBytes = bytes := by
  rw [decode, ofChunks_eq_ok_iff]
  constructor
  · intro hchunks
    obtain ⟨hbytes, hgenuine, -⟩ := accounts_chunks bytes
    dsimp only at hbytes hgenuine
    rw [hchunks] at hbytes hgenuine
    have hencodable : t.Encodable := fun c hc => hgenuine _ (List.mem_map_of_mem hc)
    obtain ⟨cs, rfl⟩ := hencodable.exists_chars
    refine ⟨hencodable, ?_⟩
    rw [toBytes_ofChars, ← hbytes, Option.elim_none, List.append_nil, ofChars, List.map_map,
      List.flatMap_map]
    rfl
  · rintro ⟨hencodable, rfl⟩
    obtain ⟨cs, rfl⟩ := hencodable.exists_chars
    rw [toBytes_ofChars, chunks_flatMap]

theorem passSurrogates_letters (t : Text) : passSurrogates (t.map .letter) = t.map .letter := by
  induction t with
  | nil => rfl
  | cons c t ih => exact congrArg (Chunk.letter c :: ·) ih

/-- What is read where no surrogate may stand is read where some may. -/
theorem decodePassing_of_decode {bytes : List UInt8} {t : Text} (h : decode bytes = .ok t) :
    decodePassing bytes = .ok t := by
  rw [decode, ofChunks_eq_ok_iff] at h
  rw [decodePassing, ofChunks_eq_ok_iff, h, passSurrogates_letters]

/-! ## Texts that are not read -/

theorem length_utf8EncodeChar (c : Char) :
    (String.utf8EncodeChar c).length = byteCount (.char c) := by
  have hval : c.val.toNat = (Letter.char c).toNat := rfl
  simp only [String.utf8EncodeChar, byteCount, hval]
  repeat' split
  all_goals first
    | rfl
    | omega

/-- The position of an error is that of the first spoiled chunk, which stands behind characters. -/
theorem exists_of_ofChunks_eq_error {position : Nat} {cs : List Chunk} {e : DecodeError}
    (hgenuine : ∀ chunk ∈ cs, chunk.IsGenuine) (h : ofChunks position cs = .error e) :
    ∃ (chars : List Char) (after : List UInt8),
      position + (chars.flatMap String.utf8EncodeChar).length = e.position ∧
      cs.flatMap Chunk.bytes = chars.flatMap String.utf8EncodeChar ++ (e.bytes ++ after) := by
  induction cs generalizing position with
  | nil => cases h
  | cons chunk cs ih =>
      obtain ⟨hchunk, hrest⟩ := List.forall_mem_cons.mp hgenuine
      cases chunk with
      | spoiled spoiled =>
          cases h
          exact ⟨[], cs.flatMap Chunk.bytes, rfl, rfl⟩
      | letter letter =>
          cases letter with
          | surrogate half => cases hchunk
          | char c =>
              rcases bind_eq_error h with herror | ⟨t, -, herror⟩
              · obtain ⟨chars, after, hposition, hbytes⟩ := ih hrest herror
                refine ⟨c :: chars, after, ?_, ?_⟩
                · rw [List.flatMap_cons, List.length_append, length_utf8EncodeChar, ← hposition,
                    Nat.add_assoc]
                · rw [List.flatMap_cons, hbytes, List.flatMap_cons, List.append_assoc]
                  rfl
              · cases herror

/-- An error names the first bytes that spell nothing, behind those of a text. -/
theorem exists_of_decode_eq_error {bytes : List UInt8} {e : DecodeError}
    (h : decode bytes = .error e) : ∃ (t : Text) (after : List UInt8), t.Encodable ∧
      t.toBytes.length = e.position ∧ bytes = t.toBytes ++ (e.bytes ++ after) := by
  obtain ⟨hbytes, hgenuine, -⟩ := accounts_chunks bytes
  obtain ⟨chars, after, hposition, hrest⟩ := exists_of_ofChunks_eq_error hgenuine h
  rw [Nat.zero_add] at hposition
  rw [Option.elim_none, List.append_nil] at hbytes
  refine ⟨ofChars chars, after, .ofChars chars, ?_, ?_⟩
  · rw [toBytes_ofChars, hposition]
  · rw [toBytes_ofChars, ← hrest, hbytes]

end Text

/-! ## Files that are read -/

namespace Text

theorem withLineFeeds_of_not_mem {t : Text} (h : .char '\r' ∉ t) : t.withLineFeeds = t := by
  fun_induction withLineFeeds t with
  | case1 => simp at h
  | case2 => simp at h
  | case3 c rest _ _ ih => rw [ih (mt (List.mem_cons_of_mem c) h)]
  | case4 => rfl

end Text

namespace Content

theorem text?_eq_some_iff {content : Content} {t : Text} :
    content.text? = some t ↔ content.read = .ok t := by
  unfold text?
  cases content.read <;> simp [Except.toOption]

/-- A text is read from its bytes, if no line of it ends with a carriage return. -/
theorem text?_toBytes {t : Text} (h : t.Encodable) (hreturn : .char '\r' ∉ t) :
    text? t.toBytes = some t := by
  rw [text?_eq_some_iff, Content.read, Text.decode_eq_ok_iff.mpr ⟨h, rfl⟩]
  exact congrArg Except.ok (Text.withLineFeeds_of_not_mem hreturn)

theorem text?_flatMap {cs : List Char} (hreturn : '\r' ∉ cs) :
    text? (cs.flatMap String.utf8EncodeChar) = some (Text.ofChars cs) := by
  rw [← Text.toBytes_ofChars]
  exact text?_toBytes (.ofChars cs) (by simpa [Text.ofChars] using hreturn)

end Content

end MountainRange
