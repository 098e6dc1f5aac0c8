import MountainRange.Encoding.Verdict
import MountainRange.Proofs.Payloads
import MountainRange.Settings
set_option autoImplicit false

/-!
# One verdict for all who ask

A request can be put as a structured proof, as an object that carries one, or as the slots
of its encoding, and its numbers can be spelled in several ways.  However it is put, the
service comes to the verdict of the verifier on the request, and reports it in the same
words.
-/

namespace MountainRange

theorem Outcome.code_eq_zero_iff (o : Outcome) : o.code = 0 ↔ o.isValid = true := by
  cases o <;> simp [code, isValid]

namespace Service

variable {options : Options} {r : Request} {outcome : Outcome}

/-- A verdict on a request is reported. -/
theorem report_eq_ok (h : r.explain none options = .ok outcome) :
    report options r none = .ok (.ofOutcome r.mode outcome) := by
  rw [report, h]

/-! ## Structured proofs -/

theorem verifyProof_eq_ok {p : Payload.Proof} (hp : p.Spells r)
    (h : r.explain none options = .ok outcome) :
    verifyProof options p = .ok (.ofOutcome r.mode outcome) := by
  have hexpected : expectedLeaf p = .ok none := by rw [expectedLeaf, hp.expectedLeaf_eq]
  refine bind_eq_ok_iff.mpr ⟨r, buildRequest_eq_ok hp, ?_⟩
  exact bind_eq_ok_iff.mpr ⟨none, hexpected, report_eq_ok h⟩

theorem verify_eq_ok {fields : Payload.Fields} {p : Payload.Proof}
    (hfields : Payload.Carries fields p) (hp : p.Spells r)
    (h : r.explain none options = .ok outcome) :
    verify options (.object fields) = .ok (.ofOutcome r.mode outcome) := by
  have hread : readProof (.object fields) = .ok p := by
    rw [readProof, Payload.Proof.read_eq_ok hfields hp]
    rfl
  exact bind_eq_ok_iff.mpr ⟨p, hread, verifyProof_eq_ok hp h⟩

/-! ## Slots -/

/-- Slots are read as the numbers that they spell. -/
theorem parseSlots_eq_ok {numbers : List Nat} {slots : List Value}
    (h : List.Forall₂ FieldText.Spells numbers slots) :
    parseSlots slots = .ok (numbers.map Int.ofNat) := by
  have hparse : slots.mapM FieldText.parse = .ok (numbers.map Int.ofNat) := by
    apply mapM_eq_ok_of_forall₂
    rw [List.forall₂_map_right_iff]
    exact h.flip.imp fun _ _ hslot => FieldText.parse_of_spells hslot
  rw [parseSlots, hparse]
  rfl

theorem verifyRaw_eq_ok {slots : List Value} (hr : Encoding.Fits r)
    (hslots : List.Forall₂ FieldText.Spells (Encoding.encode r) slots)
    (h : r.explain none options = .ok outcome) :
    verifyRaw options (.array slots) = .ok (.ofOutcome r.mode outcome) := by
  have hdecode : Encoding.decode (((Encoding.encode r).map Int.ofNat).map .int) = .ok r := by
    rw [List.map_map]
    exact Encoding.decode_encodeValues_of_fits hr
  refine bind_eq_ok_iff.mpr ⟨_, parseSlots_eq_ok hslots, ?_⟩
  refine bind_eq_ok_iff.mpr ⟨r, ?_, report_eq_ok h⟩
  rw [hdecode]
  rfl

end Service

theorem Encoding.verdict_eq_ok {options : Options} {r : Request} {outcome : Outcome}
    (hr : Fits r) (h : r.explain none options = .ok outcome) :
    verdict options (.array (encodeValues r)) = .ok outcome := by
  refine bind_eq_ok_iff.mpr ⟨r, ?_, ?_⟩
  · show (decode (encodeValues r)).mapError VerdictError.refused = _
    rw [decode_encodeValues_of_fits hr]
    rfl
  · rw [h]
    rfl

namespace Service

/-- Whoever asks for the verdict on a request that fits gets the same report: with a
structured proof that spells the request, with an object that carries the proof, or with
the slots of the request, each spelled in whatever way.  The report gives the verdict of the
verifier and the mode of the request, its code is zero exactly if the proof is accepted, and
so is the code of the verdict on the encoded request. -/
theorem entry_points_agree (settings : Settings) {r : Request} (hr : Encoding.Fits r)
    {fields : Payload.Fields} {p : Payload.Proof} {slots : List Value}
    (hfields : Payload.Carries fields p) (hp : p.Spells r)
    (hslots : List.Forall₂ FieldText.Spells (Encoding.encode r) slots) :
    ∃ outcome report,
      r.explain none settings.options = .ok outcome ∧
      verifyProof settings.options p = .ok report ∧
      verify settings.options (.object fields) = .ok report ∧
      verifyRaw settings.options (.array slots) = .ok report ∧
      report.valid = outcome.isValid ∧ report.reason = outcome.reason ∧
      report.mode = r.mode ∧ (report.resultCode = 0 ↔ report.valid = true) ∧
      Encoding.verdict settings.options (.array (Encoding.encodeValues r)) = .ok outcome ∧
      (outcome.code = 0 ↔ report.valid = true) := by
  obtain ⟨outcome, houtcome, -⟩ := r.exists_explain none settings.peakMatch settings.convention
    settings.relaxBelow
  have hcode := outcome.code_eq_zero_iff
  exact ⟨outcome, .ofOutcome r.mode outcome, houtcome, verifyProof_eq_ok hp houtcome,
    verify_eq_ok hfields hp houtcome, verifyRaw_eq_ok hr hslots houtcome, rfl, rfl, rfl, hcode,
    Encoding.verdict_eq_ok hr houtcome, hcode⟩

/-- A wide request with a sibling and without the two peaks of its size: an object without a
list of peaks, and slots that are spelled in different ways. -/
theorem entry_points_agree_mixed_spellings :
    let settings : Settings :=
      ⟨.positional, .oddIsLeft, 0, "127.0.0.1", 8000, "http://127.0.0.1:8000"⟩
    let r : Request := .wide ⟨⟨1, 0xAB⟩, ⟨0, 12⟩, 1, 3, [⟨0, 0xFF⟩], []⟩
    let p : Payload.Proof :=
      ⟨.wide, "0x01000000000000000000000000000000aB", "0x00C", none, 1, 3, ["0xFf"], []⟩
    let fields : Payload.Fields :=
      [("mode", .int 1), ("root", .text "0x01000000000000000000000000000000aB"),
        ("leaf", .text "0x00C"), ("leaf_index", .int 1), ("mmr_size", .int 3),
        ("siblings", .array [.text "0xFf"])]
    let slots : List Value := [.text "1 ", .text "\t0x01", .text " 0xAb\n", .int 0, .text "0012",
      .int 1, .text "٣", .int 1, .text " 0x0", .text "0xfF", .int 0]
    Encoding.Fits r ∧ Payload.Carries fields p ∧ p.Spells r ∧
      List.Forall₂ FieldText.Spells (Encoding.encode r) slots ∧
      ∃ report, verify settings.options (.object fields) = .ok report ∧
        verifyRaw settings.options (.array slots) = .ok report ∧ report.valid = false ∧
        report.reason = (Rejection.peakCount 2 3 0).message ∧ report.mode = .wide := by
  intro settings r p fields slots
  have hr : Encoding.Fits r := ⟨by decide, by decide⟩
  have hfields : Payload.Carries fields p :=
    ⟨rfl, rfl, rfl, .inl rfl, rfl, rfl, .inl rfl, .inr ⟨rfl, rfl⟩⟩
  have hp : p.Spells r := by
    refine ⟨rfl, ⟨1, _, ?_, rfl⟩, ⟨2, _, ?_, rfl⟩, rfl, rfl, rfl, .cons ⟨0, _, ?_, rfl⟩ .nil, .nil⟩
    all_goals decide
  have hslots : List.Forall₂ FieldText.Spells (Encoding.encode r) slots := by
    refine .cons (@FieldText.Spells.decimal _ [] "1" " " ?_ ⟨0, ?_, ?_⟩ ?_) <|
      .cons (@FieldText.Spells.hexadecimal _ "\t" "0x01" [] ?_ ⟨1, _, ?_, rfl⟩ ?_) <|
      .cons (@FieldText.Spells.hexadecimal _ " " "0xAb" "\n" ?_ ⟨0, _, ?_, rfl⟩ ?_) <|
      .cons .integer <|
      .cons (@FieldText.Spells.decimal _ [] "0012" [] ?_ ⟨2, ?_, ?_⟩ ?_) <|
      .cons .integer <|
      .cons (@FieldText.Spells.decimal _ [] "٣" [] ?_ ⟨0, ?_, ?_⟩ ?_) <|
      .cons .integer <|
      .cons (@FieldText.Spells.hexadecimal _ " " "0x0" [] ?_ ⟨0, _, ?_, rfl⟩ ?_) <|
      .cons (@FieldText.Spells.hexadecimal _ [] "0xfF" [] ?_ ⟨0, _, ?_, rfl⟩ ?_) <|
      .cons .integer .nil
    all_goals decide
  have hcount : peakCount 3 = 2 := (length_heights 3).symm.trans (by decide)
  have hexplain : r.explain none settings.options = .ok (.rejected (.peakCount 2 3 0)) := by
    have hgates := @Mode.explain_eq_ok .wide ⟨⟨1, 0xAB⟩, ⟨0, 12⟩, 1, 3, [⟨0, 0xFF⟩], []⟩ none
      settings.options false rfl
    have hne : false = false ∧ 0 ≠ peakCount 3 := ⟨rfl, by rw [hcount]; decide⟩
    rw [← hcount]
    exact hgates.trans (congrArg Except.ok (if_pos hne))
  obtain ⟨outcome, report, houtcome, -, hverify, hraw, hvalid, hreason, hmode, -⟩ :=
    entry_points_agree settings hr hfields hp hslots
  obtain rfl := Except.ok.inj (houtcome.symm.trans hexplain)
  exact ⟨hr, hfields, hp, hslots, report, hverify, hraw, hvalid, hreason, hmode⟩

end Service

end MountainRange
