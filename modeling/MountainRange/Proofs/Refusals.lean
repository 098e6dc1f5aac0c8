import MountainRange.App
import MountainRange.Proofs.EntryPoints
import MountainRange.Proofs.Slots
set_option autoImplicit false

/-!
# Slots without a report

Slots are reported on exactly if each is or spells an integer and the integers are those
that some request is encoded to.  All others are told to be malformed, but for one case:
the error about an integer that is no field element names the integer, and one of more than
4300 digits cannot be named.  Nothing is told of what is wrong with such slots.
-/

namespace MountainRange

/-! ## Integers too long to be named -/

theorem Text.Numeral.write?_isSome_iff {n : Int} :
    (write? n).isSome = true ↔ n.natAbs < 10 ^ maxDigits := by
  unfold write?
  generalize maxDigits = digits
  by_cases h : n.natAbs < Nat.pow 10 digits
  · rw [if_pos h]
    exact ⟨fun _ => h, fun _ => rfl⟩
  · rw [if_neg h]
    exact ⟨fun hsome => Bool.noConfusion hsome, fun hlt => absurd hlt h⟩

theorem Felt.ofInt?_eq_none_iff {n : Int} : ofInt? n = none ↔ ¬(0 ≤ n ∧ n < fieldPrime) := by
  unfold ofInt? Number.below?
  split
  · next h => simp [h]
  · next h => simp [h]

namespace Encoding

/-- Of some integers the first that is no field element has too many digits to be named. -/
inductive Unnameable : List Int → Prop where
  | here {n : Int} {rest : List Int} (h : 10 ^ Text.Numeral.maxDigits ≤ n.natAbs) :
      Unnameable (n :: rest)
  | behind {n : Int} {rest : List Int} (hn : 0 ≤ n ∧ n < fieldPrime) (h : Unnameable rest) :
      Unnameable (n :: rest)

theorem unnameable_cons_iff {n : Int} {rest : List Int} :
    Unnameable (n :: rest) ↔
      10 ^ Text.Numeral.maxDigits ≤ n.natAbs ∨ (0 ≤ n ∧ n < fieldPrime) ∧ Unnameable rest := by
  constructor
  · rintro (h | ⟨hn, h⟩)
    · exact .inl h
    · exact .inr ⟨hn, h⟩
  · rintro (h | ⟨hn, h⟩)
    · exact .here h
    · exact .behind hn h

variable {position : Nat} {n : Int} {v : Value} {items : List Value} {numbers : List Int}
variable {refusal : Refusal}

theorem exists_slot?_iff :
    (∃ x, slot? position (.int n) = .ok x) ↔ 0 ≤ n ∧ n < fieldPrime := by
  rw [← Classical.not_not (a := 0 ≤ n ∧ n < fieldPrime), ← Felt.ofInt?_eq_none_iff, slot?]
  cases Felt.ofInt? n <;> simp

/-- The check of an integer fails without a word exactly if the integer cannot be named. -/
theorem slot?_eq_unwritable_iff :
    slot? position (.int n) = .error .unwritable ↔ 10 ^ Text.Numeral.maxDigits ≤ n.natAbs := by
  have hprime := fieldPrime_lt_pow_maxDigits
  rw [slot?, ← Nat.not_lt, ← Text.Numeral.write?_isSome_iff]
  cases hfelt : Felt.ofInt? n with
  | none => simp
  | some x =>
      obtain rfl := (Number.below?_eq_some_iff fieldPrime n x).mp hfelt
      simp [write?_isSome (Nat.lt_trans x.isLt hprime)]

theorem slots?_cons_eq_error_iff :
    slots? position (v :: items) = .error refusal ↔
      slot? position v = .error refusal ∨
        (∃ x, slot? position v = .ok x) ∧ slots? (position + 1) items = .error refusal := by
  rw [slots?, bind_eq_error_iff]
  simp only [bind_eq_error_iff, pure, Except.pure, reduceCtorEq, and_false, exists_false, or_false,
    exists_and_right]

/-- So does the check of integers at the first that is no field element. -/
theorem slots?_eq_unwritable_iff :
    slots? position (numbers.map .int) = .error .unwritable ↔ Unnameable numbers := by
  induction numbers generalizing position with
  | nil => exact ⟨nofun, nofun⟩
  | cons n rest ih =>
      rw [List.map_cons, slots?_cons_eq_error_iff, slot?_eq_unwritable_iff, exists_slot?_iff, ih,
        unnameable_cons_iff]

/-- A slot is refused as malformed or without a word. -/
theorem slot?_eq_error_cases (h : slot? position v = .error refusal) :
    refusal = .unwritable ∨ ∃ error, refusal = .malformed error := by
  unfold slot? at h
  split at h
  · split at h
    · cases h
    · split at h
      · cases h
        exact .inr ⟨_, rfl⟩
      · cases h
        exact .inl rfl
  · cases h
    exact .inr ⟨_, rfl⟩

theorem slots?_eq_error_cases (h : slots? position items = .error refusal) :
    refusal = .unwritable ∨ ∃ error, refusal = .malformed error := by
  induction items generalizing position with
  | nil => cases h
  | cons v items ih =>
      rcases slots?_cons_eq_error_iff.mp h with hslot | ⟨-, hslots⟩
      · exact slot?_eq_error_cases hslot
      · exact ih hslots

theorem decode_eq_error_cases (h : decode items = .error refusal) :
    refusal = .unwritable ∨ ∃ error, refusal = .malformed error := by
  rcases bind_eq_error h with hslots | ⟨felts, -, h⟩
  · exact slots?_eq_error_cases hslots
  · obtain ⟨error, -, rfl⟩ := mapError_eq_error_iff.mp h
    exact .inr ⟨error, rfl⟩

theorem decode_eq_unwritable_iff :
    decode (numbers.map .int) = .error .unwritable ↔ Unnameable numbers := by
  have hslots : slots? 0 (numbers.map .int) = .error .unwritable ↔ Unnameable numbers :=
    slots?_eq_unwritable_iff
  rw [← hslots, decode, bind_eq_error_iff, or_iff_left]
  rintro ⟨felts, -, h⟩
  obtain ⟨error, -, hunwritable⟩ := mapError_eq_error_iff.mp h
  cases hunwritable

/-- Integers make a request exactly if a request that fits is encoded to them. -/
theorem decode_integers_eq_ok_iff {r : Request} :
    decode (numbers.map .int) = .ok r ↔ Fits r ∧ (encode r).map Int.ofNat = numbers := by
  have hvalues : encodeValues r = ((encode r).map Int.ofNat).map .int := by
    rw [List.map_map]
    rfl
  rw [decode_eq_ok_iff, hvalues, List.map_inj_right fun _ _ h => Value.int.inj h]

end Encoding

/-! ## Reports on slots -/

theorem Settings.exists_report (settings : Settings) (r : Request)
    (expected : Option Operand) : ∃ outcome, r.explain expected settings.options = .ok outcome ∧
      Service.report settings.options r expected = .ok (.ofOutcome r.mode outcome) := by
  obtain ⟨outcome, houtcome, -⟩ := r.exists_explain expected settings.peakMatch
    settings.convention settings.relaxBelow
  have hexplain : r.explain expected settings.options = .ok outcome := houtcome
  exact ⟨outcome, hexplain, by rw [Service.report, hexplain]⟩

namespace Service

/-- The slots are or spell the integers that a request is encoded to. -/
def SlotsEncode (items : List Value) (r : Request) : Prop :=
  Encoding.Fits r ∧ items.mapM FieldText.parse = .ok ((Encoding.encode r).map Int.ofNat)

/-- The slots are or spell integers, and the first that is no field element has too many
digits to be named. -/
def SlotsUnnameable (items : List Value) : Prop :=
  ∃ numbers, items.mapM FieldText.parse = .ok numbers ∧ Encoding.Unnameable numbers

variable {settings : Settings} {items : List Value} {numbers : List Int} {r : Request}

theorem parseSlots_of_mapM (h : items.mapM FieldText.parse = .ok numbers) :
    parseSlots items = .ok numbers := by
  rw [parseSlots, h]
  rfl

theorem verifySlots_of_mapM (options : Options) (h : items.mapM FieldText.parse = .ok numbers) :
    verifySlots options items =
      (Encoding.decode (numbers.map .int)).mapError .slots >>= fun r => report options r none := by
  rw [verifySlots, parseSlots_of_mapM h]
  rfl

theorem SlotsEncode.decode (h : SlotsEncode items r) :
    Encoding.decode (((Encoding.encode r).map Int.ofNat).map .int) = .ok r :=
  Encoding.decode_integers_eq_ok_iff.mpr ⟨h.1, rfl⟩

theorem SlotsEncode.not_unnameable (h : SlotsEncode items r) : ¬SlotsUnnameable items := by
  rintro ⟨numbers, hnumbers, hunnameable⟩
  obtain rfl := Except.ok.inj (h.2.symm.trans hnumbers)
  have hrefused := Encoding.decode_eq_unwritable_iff.mpr hunnameable
  rw [h.decode] at hrefused
  cases hrefused

/-- The slots of a request are reported on with the verdict on it. -/
theorem SlotsEncode.verifySlots_eq (settings : Settings) (h : SlotsEncode items r) :
    ∃ outcome, r.explain none settings.options = .ok outcome ∧
      verifySlots settings.options items = .ok (.ofOutcome r.mode outcome) := by
  obtain ⟨outcome, houtcome, hreport⟩ := settings.exists_report r none
  refine ⟨outcome, houtcome, ?_⟩
  rw [verifySlots_of_mapM _ h.2, h.decode]
  exact hreport

theorem SlotsUnnameable.verifySlots_eq (options : Options) (h : SlotsUnnameable items) :
    verifySlots options items = .error (.slots .unwritable) := by
  obtain ⟨numbers, hnumbers, hunnameable⟩ := h
  rw [verifySlots_of_mapM _ hnumbers, Encoding.decode_eq_unwritable_iff.mpr hunnameable]
  rfl

/-- All other slots are told to be malformed. -/
theorem verifySlots_eq_malformed (settings : Settings) (hencode : ∀ r, ¬SlotsEncode items r)
    (hunnameable : ¬SlotsUnnameable items) :
    ∃ error, verifySlots settings.options items = .error (.slots (.malformed error)) := by
  cases hparse : items.mapM FieldText.parse with
  | error cause =>
      refine ⟨.slotText cause.message, ?_⟩
      rw [verifySlots, parseSlots, hparse]
      rfl
  | ok numbers =>
      rw [verifySlots_of_mapM _ hparse]
      cases hdecode : Encoding.decode (numbers.map .int) with
      | ok r =>
          obtain ⟨hfits, rfl⟩ := Encoding.decode_integers_eq_ok_iff.mp hdecode
          exact absurd ⟨hfits, hparse⟩ (hencode r)
      | error refusal =>
          rcases Encoding.decode_eq_error_cases hdecode with rfl | ⟨error, rfl⟩
          · exact absurd ⟨numbers, hparse, Encoding.decode_eq_unwritable_iff.mp hdecode⟩ hunnameable
          · exact ⟨error, rfl⟩

end Service

/-! ## Slots in a message -/

namespace Payload

/-- Integers and texts are taken as slots as they are. -/
theorem all_slots_eq_ok {place : Nat → List Place} {items : List Value}
    (h : ∀ v ∈ items, v.kind = .int ∨ v.kind = .text) :
    Checked.all (items.mapIdx fun i v => slot (place i) v) = .ok items := by
  induction items generalizing place with
  | nil => rfl
  | cons v items ih =>
      have hslot : slot (place 0) v = .ok v := by
        cases v with
        | int n => rfl
        | text t => rfl
        | _ => rcases h _ List.mem_cons_self with hkind | hkind <;> cases hkind
      have hitems : Checked.all (items.mapIdx fun i v => slot (place (i + 1)) v) = .ok items :=
        ih fun w hw => h w (List.mem_cons_of_mem _ hw)
      rw [List.mapIdx_cons, Checked.all, hslot, hitems]
      rfl

end Payload

theorem App.serve_verifyRaw {options : Options} {body : Payload.Fields} {items : List Value}
    (hbody : Value.field? body "fields" = some (.array items))
    (hitems : ∀ v ∈ items, v.kind = .int ∨ v.kind = .text) :
    serve options .verifyRaw (some (.object body)) =
      respond Report.toValue (Service.verifySlots options items) := by
  have hread : Payload.readSlots body = .ok items := by
    rw [Payload.readSlots, Payload.required, hbody]
    exact Payload.all_slots_eq_ok hitems
  show respond Report.toValue
    ((Payload.readSlots body).mapError ServiceError.ofIssues >>= Service.verifySlots options) = _
  rw [hread]
  rfl

namespace Service

/-- Slots, each an integer or a text, are reported on exactly if a request is encoded to
them.  The others are malformed, and so the application answers, unless the error would
have to name an integer that is too long to be written: then all that is told is that it is
too long. -/
theorem verifyRaw_reports_or_refuses (settings : Settings) {items : List Value}
    {body : Payload.Fields} (hitems : ∀ v ∈ items, v.kind = .int ∨ v.kind = .text)
    (hbody : Value.field? body "fields" = some (.array items)) :
    let result := verifyRaw settings.options (.array items)
    let response := App.encoded (App.serve settings.options .verifyRaw (some (.object body)))
    ((∃ report, result = .ok report) ↔ ∃ r, SlotsEncode items r) ∧
      ((¬∃ r, SlotsEncode items r) → ¬SlotsUnnameable items →
        ∃ error, result = .error (.slots (.malformed error)) ∧
          response = App.encoded (App.failure 400 error.message "DECODE_ERROR" "DecodeError")) ∧
      (SlotsUnnameable items → result = .error (.slots .unwritable) ∧
        response = App.encoded (App.invalid Text.Numeral.tooLongMessage)) := by
  intro result response
  have hresult : result = verifySlots settings.options items := rfl
  have hresponse : response = App.encoded (App.respond Report.toValue result) :=
    congrArg App.encoded (App.serve_verifyRaw hbody hitems)
  rw [hresponse, hresult]
  refine ⟨⟨?_, ?_⟩, ?_, ?_⟩
  · rintro ⟨report, hreport⟩
    by_contra hencode
    by_cases hunnameable : SlotsUnnameable items
    · rw [hunnameable.verifySlots_eq] at hreport
      cases hreport
    · obtain ⟨error, herror⟩ :=
        verifySlots_eq_malformed settings (not_exists.mp hencode) hunnameable
      rw [herror] at hreport
      cases hreport
  · rintro ⟨r, hr⟩
    obtain ⟨outcome, -, hreport⟩ := hr.verifySlots_eq settings
    exact ⟨_, hreport⟩
  · intro hencode hunnameable
    obtain ⟨error, herror⟩ :=
      verifySlots_eq_malformed settings (not_exists.mp hencode) hunnameable
    exact ⟨error, herror, by rw [herror]; rfl⟩
  · intro hunnameable
    have hsilent := hunnameable.verifySlots_eq settings.options
    exact ⟨hsilent, by rw [hsilent]; rfl⟩

/-- Two slots, the first of which is no mode. -/
theorem verifyRaw_reports_or_refuses_unknown_mode :
    let settings : Settings :=
      ⟨.positional, .oddIsLeft, 0, "127.0.0.1", 8000, "http://127.0.0.1:8000"⟩
    let items : List Value := [.int 5, .text "0x2"]
    let body : Payload.Fields := [("fields", .array items)]
    (∀ v ∈ items, v.kind = .int ∨ v.kind = .text) ∧
      Value.field? body "fields" = some (.array items) ∧
      ∃ error, verifyRaw settings.options (.array items) = .error (.slots (.malformed error)) ∧
        App.encoded (App.serve settings.options .verifyRaw (some (.object body))) =
          App.encoded (App.failure 400 error.message "DECODE_ERROR" "DecodeError") := by
  intro settings items body
  have hitems : ∀ v ∈ items, v.kind = .int ∨ v.kind = .text := by
    intro v hv
    rcases List.mem_cons.mp hv with rfl | hv
    · exact .inl rfl
    obtain rfl := List.mem_singleton.mp hv
    exact .inr rfl
  have hbody : Value.field? body "fields" = some (.array items) := rfl
  have hparse : items.mapM FieldText.parse = .ok [5, 2] := rfl
  have hdecode : Encoding.decode ([5, 2].map .int) = .error (.malformed (.unknownMode 5)) := rfl
  have hencode : ¬∃ r, SlotsEncode items r := by
    rintro ⟨r, hr⟩
    have hok := hr.decode
    rw [Except.ok.inj (hr.2.symm.trans hparse), hdecode] at hok
    cases hok
  have hunnameable : ¬SlotsUnnameable items := by
    rintro ⟨numbers, hnumbers, hlong⟩
    obtain rfl := Except.ok.inj (hnumbers.symm.trans hparse)
    rw [← Encoding.decode_eq_unwritable_iff, hdecode] at hlong
    cases hlong
  exact ⟨hitems, hbody,
    (verifyRaw_reports_or_refuses settings hitems hbody).2.1 hencode hunnameable⟩

/-! ## A power of sixteen -/

theorem toDigits_sixteen_pow (k : Nat) :
    Nat.toDigits 16 (16 ^ k) = '1' :: List.replicate k '0' := by
  induction k with
  | zero => rfl
  | succ k ih =>
      have hle : 16 ≤ 16 ^ (k + 1) := Nat.le_self_pow (Nat.succ_ne_zero k) 16
      have hdiv : 16 ^ (k + 1) / 16 = 16 ^ k := Nat.mul_div_cancel _ (by decide)
      have hmod : 16 ^ (k + 1) % 16 = 0 := Nat.mul_mod_left _ _
      rw [Nat.toDigits_of_base_le (by decide) hle, hdiv, hmod, ih, List.replicate_succ',
        List.cons_append]
      rfl

/-- In base sixteen a power of sixteen is a one in front of zeros. -/
theorem spells_sixteen_pow (k : Nat) : FieldText.Spells (16 ^ k)
    (.text (Text.ofChars ('0' :: 'x' :: '1' :: List.replicate k '0'))) := by
  have hlower : ('1' :: List.replicate k '0').map Char.toLower = '1' :: List.replicate k '0' := by
    rw [List.map_cons, List.map_replicate]
    rfl
  have hspells : Text.SpellsHex (16 ^ k)
      (Text.ofChars ('0' :: 'x' :: '1' :: List.replicate k '0')) := by
    refine ⟨0, _, ?_, rfl⟩
    rw [hlower, Text.paddedDigits, toDigits_sixteen_pow]
    rfl
  have hnone : Text.AllBlank [] := List.forall_mem_nil _
  have htext := FieldText.Spells.hexadecimal hnone hspells hnone
  rwa [List.nil_append, List.append_nil] at htext

theorem slotsUnnameable_of_spells {n : Nat} {v : Value} (hv : FieldText.Spells n v)
    (hn : 10 ^ Text.Numeral.maxDigits ≤ n) : SlotsUnnameable [v] := by
  refine ⟨[(n : Int)], ?_, .here hn⟩
  exact mapM_eq_ok_of_forall₂ (.cons (FieldText.parse_of_spells hv) .nil)

theorem pow_maxDigits_le_sixteen_pow : 10 ^ Text.Numeral.maxDigits ≤ 16 ^ 3600 := by
  have hdigits : Text.Numeral.maxDigits = 43 * 100 := rfl
  rw [hdigits, show 3600 = 36 * 100 from rfl, Nat.pow_mul, Nat.pow_mul]
  exact Nat.pow_le_pow_left (by decide) 100

/-- A one and 3600 zeros in base sixteen are no encoding of a request, and not told to be
malformed. -/
theorem verifyRaw_sixteen_pow :
    let settings : Settings :=
      ⟨.positional, .oddIsLeft, 0, "127.0.0.1", 8000, "http://127.0.0.1:8000"⟩
    let items : List Value :=
      [.text (Text.ofChars ('0' :: 'x' :: '1' :: List.replicate 3600 '0'))]
    (¬∃ r, SlotsEncode items r) ∧
      ¬∃ error, verifyRaw settings.options (.array items) = .error (.slots (.malformed error)) := by
  intro settings items
  have hlong : SlotsUnnameable items :=
    slotsUnnameable_of_spells (spells_sixteen_pow 3600) pow_maxDigits_le_sixteen_pow
  have hsilent : verifyRaw settings.options (.array items) = .error (.slots .unwritable) :=
    hlong.verifySlots_eq settings.options
  refine ⟨?_, ?_⟩
  · rintro ⟨r, hr⟩
    exact hr.not_unnameable hlong
  · rintro ⟨error, herror⟩
    rw [hsilent] at herror
    cases herror

end Service

end MountainRange
