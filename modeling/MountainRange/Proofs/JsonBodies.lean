import MountainRange.App
import MountainRange.Proofs.Display
import MountainRange.Proofs.Documents
import MountainRange.Proofs.JsonDocuments
set_option autoImplicit false

/-!
# Bodies of messages

A client writes what it sends with letters from the space to the tilde alone.  Each takes one
byte, and none of the bytes is zero, so the service takes a body for what it is and reads the
value that was sent.
-/

namespace MountainRange

/-! ## Letters of one byte -/

/-- A letter from the space to the tilde. -/
def Letter.IsAscii (c : Letter) : Prop := 0x20 ≤ c.toNat ∧ c.toNat < 0x7F

instance (c : Letter) : Decidable c.IsAscii := inferInstanceAs (Decidable (_ ∧ _))

/-- A text of letters from the space to the tilde. -/
def Text.IsAscii (t : Text) : Prop := ∀ c ∈ t, c.IsAscii

instance (t : Text) : Decidable t.IsAscii := inferInstanceAs (Decidable (∀ c ∈ t, _))

namespace Text

variable {s t : Text}

theorem isAscii_nil : IsAscii [] := nofun

theorem isAscii_append_iff : IsAscii (s ++ t) ↔ s.IsAscii ∧ t.IsAscii := List.forall_mem_append

theorem isAscii_cons_iff {c : Letter} : IsAscii (c :: t) ↔ c.IsAscii ∧ t.IsAscii :=
  List.forall_mem_cons

theorem isAscii_ofChars {cs : List Char} (h : ∀ c ∈ cs, Letter.IsAscii (.char c)) :
    IsAscii (ofChars cs) := by
  intro c hc
  obtain ⟨d, hd, rfl⟩ := List.mem_map.mp hc
  exact h d hd

theorem isAscii_of_isDigit {c : Char} (h : c.isDigit = true) : Letter.IsAscii (.char c) := by
  obtain ⟨hlow, hhigh⟩ := (isDigit_char_iff c).mp h
  exact ⟨Nat.le_trans (by decide) hlow, Nat.lt_of_le_of_lt hhigh (by decide)⟩

/-- The characters of a text of one-byte letters. -/
theorem IsAscii.exists_chars (h : t.IsAscii) :
    ∃ cs : List Char, t = ofChars cs ∧ ∀ c ∈ cs, 0x20 ≤ c.toNat ∧ c.toNat < 0x7F := by
  induction t with
  | nil => exact ⟨[], rfl, by simp⟩
  | cons c t ih =>
      obtain ⟨hc, ht⟩ := isAscii_cons_iff.mp h
      obtain ⟨cs, rfl, hcs⟩ := ih ht
      rcases c with c | half
      · exact ⟨c :: cs, rfl, List.forall_mem_cons.mpr ⟨hc, hcs⟩⟩
      · have hhalf := half.property.1
        have hlow : half.val < 0x7F := hc.2
        omega

/-- A letter of one byte is written as its number. -/
theorem utf8EncodeChar_of_isAscii {c : Char} (h : c.toNat < 0x7F) :
    String.utf8EncodeChar c = [c.val.toUInt8] := by
  have hsize : c.utf8Size = 1 := by
    rw [Char.utf8Size_eq_one_iff, UInt32.le_iff_toNat_le]
    exact Nat.le_of_lt h
  exact String.utf8EncodeChar_eq_singleton hsize

/-- A text of one-byte letters has no bytes but their numbers. -/
theorem IsAscii.of_mem_toBytes (h : t.IsAscii) {b : UInt8} (hb : b ∈ t.toBytes) :
    0x20 ≤ b.toNat ∧ b.toNat < 0x7F := by
  obtain ⟨cs, rfl, hcs⟩ := h.exists_chars
  rw [toBytes_ofChars, List.mem_flatMap] at hb
  obtain ⟨c, hc, hb⟩ := hb
  obtain ⟨hlow, hhigh⟩ := hcs c hc
  rw [utf8EncodeChar_of_isAscii hhigh, List.mem_singleton] at hb
  have hnat : b.toNat = c.toNat := by
    rw [hb]
    exact Nat.mod_eq_of_lt (by show c.toNat < 256; omega)
  omega

theorem IsAscii.encodable (h : t.IsAscii) : t.Encodable := by
  obtain ⟨cs, rfl, -⟩ := h.exists_chars
  exact .ofChars cs

end Text

namespace Json

open Text (IsAscii)

/-! ## What a client writes -/

/-- Neither a mark nor a zero stands among the bytes of one-byte letters. -/
theorem ByteForm.detect_of_ascii {bytes : List UInt8}
    (h : ∀ b ∈ bytes, 0x20 ≤ b.toNat ∧ b.toNat < 0x7F) : detect bytes = .utf8 := by
  have hne : ∀ b ∈ bytes, ∀ m ∈ [(0x00 : UInt8), 0xFE, 0xFF], m ≠ b := by
    intro b hb m hm heq
    have hbounds := h b hb
    have hm : m.toNat < 0x20 ∨ 0x7F ≤ m.toNat := by
      simp only [List.mem_cons, List.not_mem_nil, or_false] at hm
      rcases hm with rfl | rfl | rfl <;> decide
    rw [heq] at hm
    omega
  have hzero : ∀ b ∈ bytes, b ≠ 0 := fun b hb => (hne b hb 0 (by simp)).symm
  have hmark : ofMark? bytes = none := by
    cases bytes with
    | nil => rfl
    | cons b rest =>
        have hfirst := hne b List.mem_cons_self
        simp [ofMark?, marks, hfirst 0 (by simp), hfirst 0xFE (by simp), hfirst 0xFF (by simp)]
  rw [detect, hmark, Option.getD_none]
  unfold ofZeros
  split
  · next a b =>
      rw [if_neg (hzero a (by simp)), if_neg (hzero b (by simp))]
  · next a b _ _ _ =>
      rw [if_neg (hzero a (by simp)), if_neg (hzero b (by simp))]
  · rfl

theorem isAscii_hexDigits (width n : Nat) : IsAscii (Text.ofChars (Text.hexDigits width n)) := by
  induction width generalizing n with
  | zero => exact Text.isAscii_nil
  | succ width ih =>
      have hdigit : ∀ d < 16, Letter.IsAscii (.char (Nat.digitChar d)) := by decide
      rw [Text.hexDigits, ofChars_append, Text.isAscii_append_iff]
      exact ⟨ih _, Text.isAscii_cons_iff.mpr
        ⟨hdigit _ (Nat.mod_lt _ (by decide)), Text.isAscii_nil⟩⟩

theorem isAscii_writeUnit (n : Nat) : IsAscii (Text.ofChars (writeUnit n)) :=
  Text.isAscii_cons_iff.mpr ⟨by decide,
    Text.isAscii_cons_iff.mpr ⟨by decide, isAscii_hexDigits 4 n⟩⟩

theorem isAscii_writeEscape (c : Letter) : IsAscii (Text.ofChars (writeEscape c)) := by
  unfold writeEscape
  split
  · exact isAscii_writeUnit _
  · rw [ofChars_append, Text.isAscii_append_iff]
    exact ⟨isAscii_writeUnit _, isAscii_writeUnit _⟩

theorem isAscii_writeLetter (c : Letter) : IsAscii (writeLetter true c) := by
  unfold writeLetter
  split
  · next hmark => rcases hmark with rfl | rfl <;> decide
  repeat' split
  · decide
  · decide
  · decide
  · decide
  · decide
  · exact isAscii_writeEscape c
  · next hshown =>
      simp only [true_and, not_or, Nat.not_lt, Nat.not_le] at hshown
      exact Text.isAscii_cons_iff.mpr ⟨hshown, Text.isAscii_nil⟩

theorem isAscii_writeString (t : Text) : IsAscii (writeString true t) := by
  have hquote : IsAscii (Text.of "\"") := by decide
  refine Text.isAscii_append_iff.mpr ⟨Text.isAscii_append_iff.mpr ⟨hquote, fun c hc => ?_⟩, hquote⟩
  obtain ⟨d, -, hc⟩ := List.mem_flatMap.mp hc
  exact isAscii_writeLetter d c hc

theorem isAscii_minus (negative : Bool) : IsAscii (minus negative) := by
  cases negative <;> decide

theorem isAscii_toString (n : Int) : IsAscii (Text.of (toString n)) := by
  rw [toString_eq, Text.isAscii_append_iff]
  exact ⟨isAscii_minus _, Text.isAscii_ofChars fun c hc =>
    Text.isAscii_of_isDigit (Text.Numeral.isDigit_of_mem_toDigits c hc)⟩

/-- A decimal is laid out with digits, a point, the mark of an exponent and signs. -/
theorem mem_layout {cs : List Char} {point : Int} {c : Char}
    (h : c ∈ Number.Double.layout cs point) :
    c ∈ cs ∨ c.isDigit = true ∨ c ∈ ['.', 'e', '-', '+'] := by
  have hexponent : ∀ n, c ∈ Nat.toDigits 10 n → c.isDigit = true :=
    fun _ hc => Text.Numeral.isDigit_of_mem_toDigits c hc
  have hzero : ∀ n, c ∈ List.replicate n '0' → c.isDigit = true := fun n hc => by
    rw [List.eq_of_mem_replicate hc]
    rfl
  have hfirst : c = '0' → c.isDigit = true := by
    rintro rfl
    rfl
  have htake : ∀ n, c ∈ cs.take n → c ∈ cs := fun _ => List.mem_of_mem_take
  have hdrop : ∀ n, c ∈ cs.drop n → c ∈ cs := fun _ => List.mem_of_mem_drop
  unfold Number.Double.layout at h
  simp only [List.mem_cons, List.not_mem_nil, or_false]
  repeat' split at h
  all_goals simp only [List.mem_cons, List.mem_append, List.not_mem_nil, or_false] at h
  all_goals grind

theorem isAscii_float (x : Number.Double) : IsAscii (Text.of (x.text floatWords)) := by
  cases x with
  | nan => decide
  | infinity negative => cases negative <;> decide
  | finite negative m e hcanonical =>
      have hdigits := (isSignificand_writtenDigits negative m e hcanonical).isDigit
      rw [of_text_finite, Text.isAscii_append_iff]
      refine ⟨isAscii_minus _, Text.isAscii_ofChars fun c hc => ?_⟩
      rcases mem_layout hc with hc | hc | hc
      · exact Text.isAscii_of_isDigit (hdigits c hc)
      · exact Text.isAscii_of_isDigit hc
      · simp only [List.mem_cons, List.not_mem_nil, or_false] at hc
        rcases hc with rfl | rfl | rfl | rfl <;> decide

mutual

theorem isAscii_writeValue (level : Nat) : (v : Value) → IsAscii (writeValue .line level v)
  | .null => (by decide : IsAscii (Text.of "null"))
  | .bool true => (by decide : IsAscii (Text.of "true"))
  | .bool false => (by decide : IsAscii (Text.of "false"))
  | .int n => isAscii_toString n
  | .float x => isAscii_float x
  | .text t => isAscii_writeString t
  | .array [] => (by decide : IsAscii (Text.of "[]"))
  | .array (v :: items) => by
      simp only [writeValue, Text.isAscii_append_iff]
      exact ⟨⟨⟨⟨⟨by decide, Text.isAscii_nil⟩, isAscii_writeValue _ v⟩, isAscii_writeItems _ items⟩,
        Text.isAscii_nil⟩, by decide⟩
  | .object [] => (by decide : IsAscii ['\x7b', '\x7d'])
  | .object ((name, v) :: fields) => by
      simp only [writeValue, Text.isAscii_append_iff]
      exact ⟨⟨⟨⟨⟨⟨⟨by decide, Text.isAscii_nil⟩, isAscii_writeString name⟩, by decide⟩,
        isAscii_writeValue _ v⟩, isAscii_writeFields _ fields⟩, Text.isAscii_nil⟩, by decide⟩

theorem isAscii_writeItems (level : Nat) :
    (items : List Value) → IsAscii (writeItems .line level items)
  | [] => Text.isAscii_nil
  | v :: items => by
      simp only [writeItems, Text.isAscii_append_iff]
      exact ⟨⟨⟨by decide, Text.isAscii_nil⟩, isAscii_writeValue _ v⟩, isAscii_writeItems _ items⟩

theorem isAscii_writeFields (level : Nat) :
    (fields : List (Text × Value)) → IsAscii (writeFields .line level fields)
  | [] => Text.isAscii_nil
  | (name, v) :: fields => by
      simp only [writeFields, Text.isAscii_append_iff]
      exact ⟨⟨⟨⟨⟨by decide, Text.isAscii_nil⟩, isAscii_writeString name⟩, by decide⟩,
        isAscii_writeValue _ v⟩, isAscii_writeFields _ fields⟩

end

theorem encodable_write (v : Value) : (write .line v).Encodable :=
  (isAscii_writeValue 0 v).encodable

/-- What a client would send is read from a file that holds it. -/
theorem text?_toBytes_write (v : Value) :
    Content.text? (write .line v).toBytes = some (write .line v) := by
  have hascii : IsAscii (write .line v) := isAscii_writeValue 0 v
  refine Content.text?_toBytes hascii.encodable fun hreturn => ?_
  exact absurd (hascii _ hreturn) (by decide)

variable {v w : Value}

/-- The service reads the value that a client sends. -/
theorem readBody_write (hv : ReadsBack .line v w) : readBody (write .line v).toBytes = .ok w := by
  have hascii : IsAscii (write .line v) := isAscii_writeValue 0 v
  obtain ⟨c, t, ht, -, -, hmark⟩ := hv.exists_start 0
  have hdrop : dropMark (write .line v) = write .line v := by
    rw [write, ht, dropMark, if_neg hmark]
  have hform := ByteForm.detect_of_ascii fun b hb => hascii.of_mem_toBytes hb
  have hdecode : Text.decodePassing (write .line v).toBytes = .ok (write .line v) :=
    Text.decodePassing_of_decode (Text.decode_eq_ok_iff.mpr ⟨hascii.encodable, rfl⟩)
  rw [readBody, hform, ByteForm.decode?, hdecode]
  dsimp only [Except.toOption]
  rw [hdrop, readDocument_write hv]
  rfl

/-- What a client writes is not empty. -/
theorem toBytes_write_ne_nil (hv : ReadsBack .line v w) : (write .line v).toBytes ≠ [] := by
  intro hnil
  have hread := readBody_write hv
  rw [hnil] at hread
  cases hread

end Json

/-- The application reads the value that a client sends. -/
theorem App.readBody_write {v w : Value} (hv : Json.ReadsBack .line v w) :
    App.readBody (Json.write .line v).toBytes = .ok (some w) := by
  have hne := Json.toBytes_write_ne_nil hv
  rw [App.readBody, if_neg (by simpa using hne), Json.readBody_write hv]

end MountainRange
