import Mathlib.Data.List.TakeWhile
import MountainRange.Json.Reader
import MountainRange.Proofs.CharacterBytes
set_option autoImplicit false

/-!
# Documents that are not read

A document is not read because something in it is malformed, or because an integer in it has
more than 4300 digits.  The reader knows no other fault, and whoever handles a document that
is not read has to handle both.
-/

namespace MountainRange

namespace Json

/-! ## Faults of the reader -/

/-- A fault of the reader: what is wrong somewhere, or an integer with too many digits. -/
inductive Fault.Genuine : Fault → Prop where
  | malformed (cause : Cause) (left : Nat) : Genuine (.malformed cause left)
  | numeral {count : Nat} (h : Text.Numeral.maxDigits < count) :
      Genuine (.numeral (.tooManyDigits count))

theorem failsWith_readPieces (start : Nat) (s : Text) :
    FailsWith Fault.Genuine (readPieces start s) := by
  fun_induction readPieces start s with
  | case1 => exact .error (.malformed _ _)
  | case2 => exact .ok _
  | case3 => exact .error (.malformed _ _)
  | case4 => exact .error (.malformed _ _)
  | case5 _ _ _ _ _ _ _ _ ih => exact ih.bind fun _ => .ok _
  | case6 => exact .error (.malformed _ _)
  | case7 => exact .error (.malformed _ _)
  | case8 _ _ _ _ _ _ ih => exact ih.bind fun _ => .ok _
  | case9 => exact .error (.malformed _ _)
  | case10 _ _ _ _ _ _ _ _ ih => exact ih.bind fun _ => .ok _

theorem failsWith_readString (s : Text) : FailsWith Fault.Genuine (readString s) :=
  (failsWith_readPieces _ s).bind fun _ => .ok _

theorem failsWith_readName (s : Text) : FailsWith Fault.Genuine (readName s) := by
  unfold readName
  split
  · refine (failsWith_readString _).bind fun (name, rest) => ?_
    dsimp only
    split
    · exact .ok _
    · exact .error (.malformed _ _)
  · exact .error (.malformed _ _)

theorem failsWith_integer? (negative : Bool) (digits : Text) :
    FailsWith Fault.Genuine (integer? negative digits) := by
  unfold integer?
  split
  · next hlong =>
      exact .error (.numeral hlong)
  · exact .ok _

theorem failsWith_readNumber (s : Text) : FailsWith Fault.Genuine (readNumber s) := by
  unfold readNumber
  dsimp only
  split
  · exact .error (.malformed _ _)
  · split
    · exact (failsWith_integer? _ _).map
    · exact .ok _

/-- With so many steps left, whatever is read ends with a result or a fault of the reader. -/
structure StepsFailWell (fuel : Nat) : Prop where
  value : ∀ s, FailsWith Fault.Genuine (readValue fuel s)
  items : ∀ s, FailsWith Fault.Genuine (readItems fuel s)
  fields : ∀ before s, FailsWith Fault.Genuine (readFields fuel before s)

namespace StepsFailWell

variable {fuel : Nat}

theorem readValue (h : StepsFailWell fuel) (s : Text) :
    FailsWith Fault.Genuine (readValue (fuel + 1) s) := by
  unfold Json.readValue
  split
  · exact .error (.malformed _ _)
  · exact .error (.malformed _ _)
  · exact (failsWith_readString _).bind fun _ => .ok _
  · next hfuel =>
      obtain rfl := Nat.succ.inj hfuel
      split
      · exact .ok _
      · exact (h.items _).bind fun _ => .ok _
  · next hfuel =>
      obtain rfl := Nat.succ.inj hfuel
      split
      · exact .ok _
      · exact (h.fields _ _).bind fun _ => .ok _
  · split
    · exact .ok _
    · exact failsWith_readNumber _

theorem readItems (h : StepsFailWell fuel) (s : Text) :
    FailsWith Fault.Genuine (readItems (fuel + 1) s) := by
  unfold Json.readItems
  refine (h.value _).bind fun (item, rest) => ?_
  dsimp only
  split
  · exact .ok _
  · exact (h.items _).bind fun _ => .ok _
  · exact .error (.malformed _ _)

theorem readFields (h : StepsFailWell fuel) (before : List (Text × Value)) (s : Text) :
    FailsWith Fault.Genuine (readFields (fuel + 1) before s) := by
  unfold Json.readFields
  refine (failsWith_readName _).bind fun (name, rest) => ?_
  refine (h.value _).bind fun (v, rest) => ?_
  dsimp only
  split
  · exact .ok _
  · exact h.fields _ _
  · exact .error (.malformed _ _)

end StepsFailWell

theorem stepsFailWell (fuel : Nat) : StepsFailWell fuel := by
  induction fuel with
  | zero =>
      refine ⟨fun s => ?_, fun s => .error (.malformed _ _), fun _ s => .error (.malformed _ _)⟩
      unfold readValue
      exact .error (.malformed _ _)
  | succ fuel ih => exact ⟨ih.readValue, ih.readItems, ih.readFields⟩

theorem failsWith_readText (s : Text) : FailsWith Fault.Genuine (readText s) := by
  refine ((stepsFailWell _).value _).bind fun (v, rest) => ?_
  dsimp only
  split
  · exact .ok _
  · exact .error (.malformed _ _)

/-- A document that is not malformed is unread only for an integer with too many digits. -/
theorem maxDigits_lt_of_read {document : Text} {error : Text.NumeralError}
    (h : read document = .error (.numeral error)) :
    ∃ count, Text.Numeral.maxDigits < count ∧ error = .tooManyDigits count := by
  have hdocument : ∀ s, readDocument s = .error (.numeral error) →
      ∃ count, Text.Numeral.maxDigits < count ∧ error = .tooManyDigits count := by
    intro s hs
    unfold readDocument at hs
    split at hs
    · cases hs
    · cases hs
    · next hfault =>
        cases hs
        cases failsWith_readText s _ hfault with
        | numeral hcount => exact ⟨_, hcount, rfl⟩
  unfold read at h
  split at h
  · split at h
    · cases h
    · exact hdocument _ h
  · exact hdocument _ h

/-! ## A row of ones -/

/-- Some ones in a row. -/
def ones (count : Nat) : Text := List.replicate count '1'

variable {n : Nat}

theorem readNumber_ones (h : Text.Numeral.maxDigits < n + 1) :
    readNumber (ones (n + 1)) = .error (.numeral (.tooManyDigits (n + 1))) := by
  have hdigits : ∀ c ∈ ones (n + 1), c.isDigit = true :=
    fun c hc => (List.mem_replicate.mp hc).2 ▸ rfl
  have hminus : splitMinus (ones (n + 1)) = (false, ones (n + 1)) := rfl
  have hwhole : splitWhole (ones (n + 1)) = (ones (n + 1), []) := by
    show splitDigits (ones (n + 1)) = _
    rw [splitDigits, List.takeWhile_eq_self_iff.mpr hdigits, List.dropWhile_eq_nil_iff.mpr hdigits]
  have hinteger : integer? false (ones (n + 1)) = .error (.numeral (.tooManyDigits (n + 1))) := by
    have hlength : (ones (n + 1)).length = n + 1 := List.length_replicate
    rw [integer?, hlength, if_pos h]
  rw [readNumber, hminus]
  dsimp only
  rw [hwhole]
  show (integer? false (ones (n + 1))).map _ = _
  rw [hinteger]
  rfl

/-- More ones than an integer may have digits are not read, and not malformed. -/
theorem read_ones (h : Text.Numeral.maxDigits < n + 1) :
    read (ones (n + 1)) = .error (.numeral (.tooManyDigits (n + 1))) := by
  have hvalue : ∀ fuel, readValue (fuel + 1) (ones (n + 1)) =
      .error (.numeral (.tooManyDigits (n + 1))) := fun fuel => readNumber_ones h
  have htext : readText (ones (n + 1)) = .error (.numeral (.tooManyDigits (n + 1))) := by
    rw [readText]
    show (readValue _ (ones (n + 1)) >>= _) = _
    rw [hvalue]
    rfl
  show readDocument (ones (n + 1)) = _
  rw [readDocument, htext]

end Json

/-! ## The text of bytes -/

theorem Content.text?_ones (n : Nat) :
    Content.text? (List.replicate n 0x31) = some (Json.ones n) := by
  have hbytes : (List.replicate n '1').flatMap String.utf8EncodeChar = List.replicate n 0x31 := by
    induction n with
    | zero => rfl
    | succ n ih =>
        rw [List.replicate_succ, List.flatMap_cons, ih]
        rfl
  have hreturn : '\r' ∉ List.replicate n '1' := fun h =>
    absurd (List.eq_of_mem_replicate h) (by decide)
  rw [← hbytes, text?_flatMap hreturn, Text.ofChars, List.map_replicate]
  rfl

end MountainRange
