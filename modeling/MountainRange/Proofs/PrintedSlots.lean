import MountainRange.Proofs.DecodeStatus
import MountainRange.Proofs.ExpectedLeaves
import MountainRange.Proofs.JsonBodies
import MountainRange.Proofs.WrittenSlots
set_option autoImplicit false

/-!
# Slots that are printed and decoded

What `encode` prints of a proof are the decimals of its slots with blanks between them.  Handed
to `decode`, they are the slots of the request again, and the verdict on them is the one on the
proof.  Only a request with more siblings or peaks than a sequence may hold is printed and not
decoded.
-/

namespace MountainRange

namespace Text

/-! ## Words between blanks -/

/-- A word in front of a blank is the first one. -/
theorem splitBlanks_append {word : Text} {c : Letter} (hne : word ≠ [])
    (hword : ∀ d ∈ word, isBlank d = false) (hc : isBlank c = true) (rest : Text) :
    splitBlanks (word ++ c :: rest) = word :: splitBlanks rest := by
  rw [splitBlanks, splitAt_eq_splitOnP, List.splitOnP_append_cons_of_forall_mem hword c hc,
    List.filter_cons_of_pos (by simpa using hne), ← splitAt_eq_splitOnP]
  rfl

/-- Words that are joined by spaces are the words of the line. -/
theorem splitBlanks_line {words : List Text} (hne : ∀ word ∈ words, word ≠ [])
    (hplain : ∀ word ∈ words, ∀ c ∈ word, isBlank c = false) :
    splitBlanks (join " " words ++ "\n") = words := by
  induction words with
  | nil => rfl
  | cons word words ih =>
      obtain ⟨hfirst, hne⟩ := List.forall_mem_cons.mp hne
      obtain ⟨hword, hplain⟩ := List.forall_mem_cons.mp hplain
      cases words with
      | nil =>
          rw [join, List.intercalate_singleton]
          exact splitBlanks_append hfirst hword (by decide) []
      | cons next rest =>
          rw [join, List.intercalate_cons_cons, List.append_assoc, List.append_assoc]
          refine (splitBlanks_append hfirst hword (by decide) _).trans ?_
          exact congrArg (word :: ·) (ih hne hplain)

end Text

/-! ## Decimals -/

open Text.Numeral (maxDigits)

/-- A natural as it is printed. -/
def printed (n : Nat) : Text := Text.of (toString (n : Int))

theorem isDigit_of_mem_printed {n : Nat} {c : Letter} (h : c ∈ printed n) : ∃ d : Char,
    c = .char d ∧ 0x30 ≤ d.toNat ∧ d.toNat ≤ 0x39 := by
  rw [printed, FieldText.toString_natural] at h
  obtain ⟨d, hd, rfl⟩ := List.mem_map.mp h
  exact ⟨d, rfl, (Text.isDigit_char_iff d).mp (Text.Numeral.isDigit_of_mem_toDigits d hd)⟩

theorem printed_ne_nil (n : Nat) : printed n ≠ [] := by
  rw [printed, FieldText.toString_natural]
  exact mt List.map_eq_nil_iff.mp Nat.toDigits_ne_nil

theorem isBlank_of_mem_printed {n : Nat} {c : Letter} (h : c ∈ printed n) :
    Text.isBlank c = false := by
  obtain ⟨d, rfl, hlow, hhigh⟩ := isDigit_of_mem_printed h
  exact Text.isBlank_eq_false (show 0x20 < d.toNat by omega) (show d.toNat < 0x85 by omega)

theorem encodable_printed (n : Nat) : (printed n).Encodable := .ofChars _

/-- A natural is printed as no option. -/
theorem isWord_printed (n : Nat) : Command.IsWord (printed n) := by
  intro hhead
  obtain ⟨d, hd, hlow, -⟩ := isDigit_of_mem_printed (List.mem_of_mem_head? hhead)
  cases hd
  exact absurd hlow (by decide)

/-- Naturals that are printed are read as themselves, if none is too long to be read. -/
theorem mapM_parse_printed_iff {ns : List Nat} {numbers : List Int} :
    (ns.map fun n => Value.text (printed n)).mapM FieldText.parse = .ok numbers ↔
      ns.map Int.ofNat = numbers ∧ ∀ n ∈ ns, n < Nat.pow 10 maxDigits := by
  rw [mapM_eq_ok_iff_forall₂, List.forall₂_map_left_iff]
  have hread : ∀ (n : Nat) (k : Int), FieldText.parse (.text (printed n)) = .ok k ↔
      (n : Int) = k ∧ n < Nat.pow 10 maxDigits := by
    intro n k
    rw [printed, FieldText.parse_toString]
    split <;> simp_all
  induction ns generalizing numbers with
  | nil => cases numbers <;> simp
  | cons n ns ih =>
      cases numbers with
      | nil => simp
      | cons k numbers =>
          rw [List.forall₂_cons, hread, List.map_cons, List.cons.injEq, List.forall_mem_cons]
          constructor
          · rintro ⟨⟨hk, hn⟩, hrest⟩
            obtain ⟨hnumbers, hns⟩ := ih.mp hrest
            exact ⟨⟨hk, hnumbers⟩, hn, hns⟩
          · rintro ⟨⟨hk, hnumbers⟩, hn, hns⟩
            exact ⟨⟨hk, hn⟩, ih.mpr ⟨hnumbers, hns⟩⟩

/-! ## Requests that are printed -/

namespace Encoding

/-- What is printed of the slots of a request. -/
def printedSlots (r : Request) : List Text := (encode r).map printed

theorem encode_ne_nil (r : Request) : encode r ≠ [] := by
  cases r <;> exact List.cons_ne_nil _ _

theorem line_eq (r : Request) :
    ProverInput.decimalsText (encodeValues r) = Text.join " " (printedSlots r) := by
  rw [ProverInput.decimalsText, encodeValues, List.map_map]
  rfl

/-- The words of the line that is printed are the slots. -/
theorem splitBlanks_printedLine (r : Request) :
    Text.splitBlanks (ProverInput.decimalsText (encodeValues r) ++ "\n") = printedSlots r := by
  rw [line_eq]
  refine Text.splitBlanks_line (fun word hword => ?_) fun word hword c hc => ?_
  · obtain ⟨n, -, rfl⟩ := List.mem_map.mp hword
    exact printed_ne_nil n
  · obtain ⟨n, -, rfl⟩ := List.mem_map.mp hword
    exact isBlank_of_mem_printed hc

theorem encodable_printedLine (r : Request) :
    Text.Encodable (ProverInput.decimalsText (encodeValues r) ++ "\n") := by
  rw [line_eq]
  refine Text.Encodable.append (.join (by decide) fun word hword => ?_) (by decide)
  obtain ⟨n, -, rfl⟩ := List.mem_map.mp hword
  exact encodable_printed n

theorem printedSlots_values (r : Request) :
    (printedSlots r).map Value.text = (encode r).map fun n => Value.text (printed n) :=
  List.map_map

theorem lt_pow_of_mem_encode {r : Request} (h : Fits r) :
    ∀ n ∈ encode r, n < Nat.pow 10 maxDigits := by
  intro n hn
  rw [encode_eq h] at hn
  obtain ⟨x, -, rfl⟩ := List.mem_map.mp hn
  rw [← FieldText.pow_maxDigits]
  exact Nat.lt_trans x.isLt fieldPrime_lt_pow_maxDigits

theorem Unnameable.exists_long {numbers : List Int} (h : Unnameable numbers) :
    ∃ n ∈ numbers, 10 ^ maxDigits ≤ n.natAbs := by
  induction h with
  | here hn => exact ⟨_, List.mem_cons_self, hn⟩
  | behind _ _ ih =>
      obtain ⟨n, hn, hlong⟩ := ih
      exact ⟨n, List.mem_cons_of_mem _ hn, hlong⟩

end Encoding

namespace Service

variable {r : Request}

/-- The slots that are printed of a request that fits are its slots. -/
theorem slotsEncode_printed (h : Encoding.Fits r) :
    SlotsEncode ((Encoding.printedSlots r).map .text) r := by
  refine ⟨h, ?_⟩
  rw [Encoding.printedSlots_values]
  exact mapM_parse_printed_iff.mpr ⟨rfl, Encoding.lt_pow_of_mem_encode h⟩

/-- Those of a request that does not fit are the slots of none. -/
theorem not_slotsEncode_printed (h : ¬Encoding.Fits r) (r' : Request) :
    ¬SlotsEncode ((Encoding.printedSlots r).map .text) r' := by
  rintro ⟨hfits, hparse⟩
  rw [Encoding.printedSlots_values] at hparse
  have hsame : Encoding.encode r = Encoding.encode r' :=
    List.map_injective_iff.mpr (fun _ _ heq => Int.ofNat_inj.mp heq)
      (mapM_parse_printed_iff.mp hparse).1
  exact h (Encoding.fits_of_encode_eq hsame hfits)

/-- None of them is too long to be named, for then it could not be read. -/
theorem not_slotsUnnameable_printed (r : Request) :
    ¬SlotsUnnameable ((Encoding.printedSlots r).map .text) := by
  rintro ⟨numbers, hparse, hlong⟩
  rw [Encoding.printedSlots_values] at hparse
  obtain ⟨rfl, hshort⟩ := mapM_parse_printed_iff.mp hparse
  obtain ⟨k, hk, hlarge⟩ := hlong.exists_long
  obtain ⟨n, hn, rfl⟩ := List.mem_map.mp hk
  rw [FieldText.pow_maxDigits] at hlarge
  exact absurd (hshort n hn) (Nat.not_lt.mpr hlarge)

end Service

namespace Command

/-! ## What `encode` prints -/

/-- The object that a file holds, if it holds one, has no leaf that the proof has to be for. -/
def ExpectsNoLeaf (content : Content) : Prop :=
  ∀ document fields, content.text? = some document → Json.read document = .ok (.object fields) →
    Value.field? fields "expected_leaf" = none ∨ Value.field? fields "expected_leaf" = some .null

theorem Ending.status_told_ne_zero (told : Told) : (Ending.told told).status ≠ 0 := by
  cases told with
  | remote error =>
      rw [status, Told.status]
      split <;> decide
  | _ => exact Nat.noConfusion

theorem failsWith_loadProof (file : InputFile) :
    FailsWith (fun ending => ending.status ≠ 0) (loadProof file) := by
  unfold loadProof
  split
  · exact .error (Ending.status_told_ne_zero _)
  · split
    · exact .ok _
    · exact .error (Ending.status_told_ne_zero _)
    · exact .error (Ending.status_told_ne_zero _)
    · exact .error Nat.one_ne_zero

theorem status_ofProofError_ne_zero (e : ServiceError) : (Ending.ofProofError e).status ≠ 0 := by
  cases e <;> exact Ending.status_told_ne_zero _

/-- No request is read from a file without an error that can be seen in the status. -/
theorem failsWith_loadRequest (env : Environment) (file : InputFile) :
    FailsWith (fun ending => ending.status ≠ 0) (loadRequest env file) := by
  have hsettings : FailsWith (fun ending : Ending => ending.status ≠ 0)
      ((Settings.read env).mapError fun error => Ending.told (.proofSettings error)) :=
    .mapError fun _ => Ending.status_told_ne_zero _
  refine (failsWith_loadProof file).bind fun _ => hsettings.bind fun _ => ?_
  exact .mapError status_ofProofError_ne_zero

section Encode

variable {σ : Type} {env : Environment} {transport : Http.Transport σ} {files : Files} {s : σ}
variable {file : InputFile} {args : List Text} {r : Request}

/-- A request that is read from a file without a leaf is the one that `verify` is about. -/
theorem holdsProof_of_loadRequest (h : loadRequest env file = .ok r)
    (hleaf : ExpectsNoLeaf file.content) : HoldsProof file.content r none := by
  obtain ⟨fields, hload, h⟩ := bind_eq_ok_iff.mp h
  obtain ⟨settings, -, h⟩ := bind_eq_ok_iff.mp h
  obtain ⟨p, hp, hrequest⟩ := bind_eq_ok_iff.mp (mapError_eq_ok h)
  obtain ⟨document, hdocument, hread⟩ := loadProof_eq_ok_iff.mp hload
  have hproof : Payload.Proof.read fields = .ok p := mapError_eq_ok hp
  have hexpected : p.expectedLeaf = none := by
    have hfield := Payload.Proof.read_expectedLeaf hproof
    rw [Payload.optional] at hfield
    rcases hleaf document fields hdocument hread with hnone | hnull
    · rw [hnone] at hfield
      exact (Except.ok.inj hfield).symm
    · rw [hnull] at hfield
      exact (Except.ok.inj hfield).symm
  refine ⟨document, fields, hdocument, hread, p, hproof, hrequest, ?_⟩
  rw [Service.expectedLeaf, hexpected]

/-- A file holds one request at most. -/
theorem holdsProof_unique {content : Content} {r r' : Request} {expected expected' : Option Operand}
    (h : HoldsProof content r expected) (h' : HoldsProof content r' expected') : r = r' := by
  obtain ⟨document, fields, hdocument, hread, p, hp, hr, -⟩ := h
  obtain ⟨document', fields', hdocument', hread', p', hp', hr', -⟩ := h'
  obtain rfl := Option.some.inj (hdocument.symm.trans hdocument')
  obtain rfl := Value.object.inj (Except.ok.inj (hread.symm.trans hread'))
  obtain rfl := Except.ok.inj (hp.symm.trans hp')
  exact Except.ok.inj (hr.symm.trans hr')

theorem run_eq {invocation : Invocation} (h : Invocation.read files args = .ok invocation) :
    (run env transport files args s).1 = (invocation.run env transport files s).1.encoded := by
  rw [run, h]

/-- The slots of the request are printed. -/
theorem run_encode (hargs : Invocation.read files args = .ok (.encode file none))
    (hload : loadRequest env file = .ok r) : (run env transport files args s).1 =
      ⟨ProverInput.decimalsText (Encoding.encodeValues r) ++ "\n", .done 0, files⟩ := by
  rw [run_eq hargs, Invocation.run, hload]
  dsimp only
  rw [writeRequest, Run.encoded, Text.encodeError?_of_encodable (Encoding.encodable_printedLine r)]

/-- Where `encode` ends with zero it has read a request. -/
theorem exists_request_of_status (hargs : Invocation.read files args = .ok (.encode file none))
    (hstatus : (run env transport files args s).1.status = 0) :
    ∃ r, loadRequest env file = .ok r := by
  rw [run_eq hargs, Invocation.run] at hstatus
  cases hload : loadRequest env file with
  | error ending =>
      rw [hload] at hstatus
      exact absurd hstatus (failsWith_loadRequest env file ending hload)
  | ok r => exact ⟨r, rfl⟩

/-- The words that are printed are the slots of the request. -/
theorem splitBlanks_output (hargs : Invocation.read files args = .ok (.encode file none))
    (hload : loadRequest env file = .ok r) :
    Text.splitBlanks (run env transport files args s).1.output = Encoding.printedSlots r := by
  rw [run_encode hargs hload]
  exact Encoding.splitBlanks_printedLine r

end Encode

/-! ## What `decode` makes of it -/

section Decode

variable {σ : Type} {env : Environment} (transport : Http.Transport σ) (files : Files) (s : σ)
variable {settings : Settings} {r : Request}

/-- The slots that are printed make a call of `decode`. -/
theorem read_decode_printed (r : Request) :
    Invocation.read files ("decode" :: Encoding.printedSlots r) =
      .ok (.decode (Encoding.printedSlots r) {}) := by
  have hwords : ∀ word ∈ Encoding.printedSlots r, IsWord word := by
    intro word hword
    obtain ⟨n, -, rfl⟩ := List.mem_map.mp hword
    exact isWord_printed n
  have hlegacy : legacyArgument ∉ Encoding.printedSlots r := fun h => hwords _ h rfl
  have hfields : fieldsOf (Encoding.printedSlots r) = Encoding.printedSlots r :=
    List.filter_eq_self.mpr fun word hword =>
      decide_eq_true fun heq => hlegacy (heq ▸ hword)
  have hsome : fieldsOf (Encoding.printedSlots r) ≠ [] := by
    rw [hfields]
    exact mt List.map_eq_nil_iff.mp (Encoding.encode_ne_nil r)
  have hread := Invocation.read_decode files (fun word hword => .inr (hwords word hword)) hsome
  rw [hfields, decide_eq_false hlegacy] at hread
  exact hread

variable (hsettings : Settings.read env = .ok settings)

include hsettings in
/-- The status of `decode` on them is the verdict on the request, if it fits. -/
theorem status_decode_printed (hfits : Encoding.Fits r) {outcome : Outcome}
    (houtcome : r.explain none settings.options = .ok outcome) :
    (run env transport files ("decode" :: Encoding.printedSlots r) s).1.status =
      verdictStatus outcome.isValid := by
  have hverdict : DecodeVerdict env false (Encoding.printedSlots r) outcome :=
    ⟨settings, r, hsettings, Service.slotsEncode_printed hfits, houtcome⟩
  obtain ⟨mode, hreport⟩ := hverdict.verifySlots_eq {}
  rw [status_run env transport files s (read_decode_printed files r), status_run_decode, hreport]
  exact reportStatus_ofOutcome files .table mode outcome

include hsettings in
/-- If it does not fit they are malformed. -/
theorem status_decode_printed_of_not_fits (hfits : ¬Encoding.Fits r) :
    (run env transport files ("decode" :: Encoding.printedSlots r) s).1.status = 2 := by
  have hmalformed : DecodeMalformed env (Encoding.printedSlots r) :=
    ⟨settings, hsettings, fun ⟨r', hr'⟩ => Service.not_slotsEncode_printed hfits r' hr',
      Service.not_slotsUnnameable_printed r⟩
  obtain ⟨ending, hreport, hending⟩ := hmalformed.verifySlots_eq {}
  rw [status_run env transport files s (read_decode_printed files r), status_run_decode, hreport]
  exact hending

include hsettings in
/-- The status of `verify` on the file of the request is the verdict on the request. -/
theorem status_verify_of_holdsProof {args : List Text} {path : Text} {content : Content}
    {format : Format} {outcome : Outcome}
    (hargs : Invocation.read files args = .ok (.verify ⟨path, content⟩ { format }))
    (hholds : HoldsProof content r none)
    (houtcome : r.explain none settings.options = .ok outcome) :
    (run env transport files args s).1.status = verdictStatus outcome.isValid := by
  have hverdict : VerifyVerdict env false none content outcome :=
    ⟨settings, r, none, hsettings, hholds, houtcome⟩
  obtain ⟨mode, hreport⟩ : ∃ mode, fileReport env { format } ⟨path, content⟩ =
      .ok (Report.ofOutcome mode outcome).toValue := VerifyVerdict.fileReport_eq hverdict
  refine (status_run env transport files s hargs).trans ?_
  rw [status_run_verify, hreport]
  exact reportStatus_ofOutcome files format mode outcome

end Decode

/-! ## Files with stray peaks -/

/-- The fields of a proof with peaks in an empty range. -/
def strayFields (count : Nat) : Payload.Fields :=
  [("mode", .int 2), ("root", .text "0x0"), ("leaf", .text "0x0"), ("leaf_index", .int 0),
    ("mmr_size", .int 0), ("peaks", .array (List.replicate count (.text "0x0")))]

/-- A file with this proof. -/
def strayFile (count : Nat) : Content := .ofText (Json.write .line (.object (strayFields count)))

section StrayFiles

variable (count : Nat)

theorem forall₂_replicate {α β : Type} {R : α → β → Prop} {x : α} {y : β} (h : R x y) :
    List.Forall₂ R (List.replicate count x) (List.replicate count y) := by
  induction count with
  | zero => exact .nil
  | succ count ih => exact .cons h ih

theorem readsBack_strayFields :
    Json.ReadsBack .line (.object (strayFields count)) (.object (strayFields count)) := by
  have hzero : Json.ReadsBack .line (.text "0x0") (.text "0x0") := Json.readsBack_text .line _
  have hpeaks := Json.readsBack_array Json.Style.isStandard_line (forall₂_replicate count hzero)
  have hdistinct : [Text.of "mode", "root", "leaf", "leaf_index", "mmr_size", "peaks"].Nodup := by
    decide
  refine Json.readsBack_object Json.Style.isStandard_line ?_ hdistinct
  exact .cons ⟨rfl, rfl, Json.readsBack_digit .line (by decide)⟩ (.cons ⟨rfl, rfl, hzero⟩
    (.cons ⟨rfl, rfl, hzero⟩ (.cons ⟨rfl, rfl, Json.readsBack_digit .line (by decide)⟩
      (.cons ⟨rfl, rfl, Json.readsBack_digit .line (by decide)⟩
        (.cons ⟨rfl, rfl, hpeaks⟩ .nil)))))

theorem text?_strayFile : (strayFile count).text? =
    some (Json.write .line (.object (strayFields count))) :=
  Json.text?_toBytes_write _

theorem read_strayFile : Json.read (Json.write .line (.object (strayFields count))) =
    .ok (.object (strayFields count)) := Json.read_write (readsBack_strayFields count)

theorem expectsNoLeaf_strayFile : ExpectsNoLeaf (strayFile count) := by
  intro document fields hdocument hread
  obtain rfl := Option.some.inj ((text?_strayFile count).symm.trans hdocument)
  obtain rfl := Value.object.inj (Except.ok.inj ((read_strayFile count).symm.trans hread))
  exact .inl rfl

/-- The file holds the request. -/
theorem loadRequest_strayFile {env : Environment} {settings : Settings} (path : Text)
    (hsettings : Settings.read env = .ok settings) :
    loadRequest env ⟨path, strayFile count⟩ = .ok (.compact (strayPeaks count)) := by
  let p : Payload.Proof :=
    ⟨.compact, "0x0", "0x0", none, 0, 0, [], List.replicate count "0x0"⟩
  have hpeaks : Payload.HasTexts (strayFields count) "peaks" p.peaks :=
    .inl (congrArg (fun items => some (Value.array items)) List.map_replicate.symm)
  have hcarries : Payload.Carries (strayFields count) p :=
    ⟨rfl, rfl, rfl, .inl rfl, rfl, rfl, .inr ⟨rfl, rfl⟩, hpeaks⟩
  have hzero : Text.SpellsHex 0 "0x0" := ⟨0, ['0'], by decide, rfl⟩
  have hspells : p.Spells (.compact (strayPeaks count)) := by
    refine ⟨rfl, hzero, hzero, rfl, rfl, rfl, .nil, ?_⟩
    rw [Request.peaks, List.forall₂_map_left_iff]
    exact forall₂_replicate count hzero
  have hload : loadProof ⟨path, strayFile count⟩ = .ok (strayFields count) :=
    loadProof_eq_ok_iff.mpr ⟨_, text?_strayFile count, read_strayFile count⟩
  have hread : Service.readProof (.object (strayFields count)) = .ok p := by
    rw [Service.readProof, Payload.Proof.read_eq_ok hcarries hspells]
    rfl
  rw [loadRequest, hload, hsettings]
  show ((Service.readProof (.object (strayFields count)) >>= Service.buildRequest).mapError _) = _
  rw [hread]
  show (Service.buildRequest p).mapError _ = _
  rw [Service.buildRequest_eq_ok hspells]
  rfl

theorem read_encode_strayFile :
    Invocation.read (proofFolder (strayFile count)) ["encode", "p.json"] =
      .ok (.encode ⟨"p.json", strayFile count⟩ none) := rfl

theorem read_verify_strayFile :
    Invocation.read (proofFolder (strayFile count)) ["verify", "p.json"] =
      .ok (.verify ⟨"p.json", strayFile count⟩ {}) :=
  Invocation.read_verify (by decide) (lookUp_proofFolder _) false none

/-- The settings of an empty environment. -/
def presetSettings : Settings :=
  ⟨.positional, .oddIsLeft, 0, "127.0.0.1", 8000, "http://127.0.0.1:8000"⟩

theorem read_presetSettings : Settings.read (fun _ => none) = .ok presetSettings := rfl

variable {σ : Type} (transport : Http.Transport σ) (s : σ)

/-- The file is encoded, however many peaks it has. -/
theorem status_encode_strayFile : (run (fun _ => none) transport (proofFolder (strayFile count))
    ["encode", "p.json"] s).1.status = 0 := by
  have hload := loadRequest_strayFile count "p.json" read_presetSettings
  rw [run_encode (read_encode_strayFile count) hload]
  rfl

/-- A stray peak is told to be too many. -/
theorem status_verify_strayFile (hcount : count ≠ 0) : (run (fun _ => none) transport
    (proofFolder (strayFile count)) ["verify", "p.json"] s).1.status = 1 := by
  have hload := loadRequest_strayFile count "p.json" read_presetSettings
  have hholds := holdsProof_of_loadRequest hload (expectsNoLeaf_strayFile count)
  exact status_verify_of_holdsProof transport _ s read_presetSettings
    (read_verify_strayFile count) hholds (explain_strayPeaks rfl hcount)

/-- Too many of them are printed, but not decoded. -/
theorem status_decode_strayFile (hmany : ¬Encoding.Fits (.compact (strayPeaks count))) :
    (run (fun _ => none) transport (proofFolder (strayFile count)) ("decode" :: Text.splitBlanks
      (run (fun _ => none) transport (proofFolder (strayFile count)) ["encode", "p.json"]
        s).1.output) s).1.status = 2 := by
  have hload := loadRequest_strayFile count "p.json" read_presetSettings
  rw [splitBlanks_output (read_encode_strayFile count) hload]
  exact status_decode_printed_of_not_fits transport _ s read_presetSettings hmany

end StrayFiles

/-! ## Printed and decoded -/

/-- What `encode` prints of a proof, handed to `decode` word by word, gets the status that
`verify` has for the proof, if the request of the proof has no more siblings and peaks than a
sequence may hold.  Of one with more, `encode` prints slots all the same, and `decode` tells
them to be malformed, while `verify` comes to a verdict. -/
theorem decode_printed_status {σ : Type} {env : Environment} (transport : Http.Transport σ)
    (files : Files) (s : σ) {args args' : List Text} {path : Text} {content : Content}
    {format : Format} {settings : Settings} (hsettings : Settings.read env = .ok settings)
    (hverify : Invocation.read files args = .ok (.verify ⟨path, content⟩ { format }))
    (hencode : Invocation.read files args' = .ok (.encode ⟨path, content⟩ none))
    (hleaf : ExpectsNoLeaf content)
    (hstatus : (run env transport files args' s).1.status = 0) :
    let fields := Text.splitBlanks (run env transport files args' s).1.output
    let decoded := (run env transport files ("decode" :: fields) s).1.status
    let verified := (run env transport files args s).1.status
    ∃ r outcome, HoldsProof content r none ∧ r.explain none settings.options = .ok outcome ∧
      verified = verdictStatus outcome.isValid ∧ (Encoding.Fits r → decoded = verified) ∧
      (¬Encoding.Fits r → decoded = 2) := by
  intro fields decoded verified
  obtain ⟨r, hload⟩ := exists_request_of_status hencode hstatus
  have hholds := holdsProof_of_loadRequest hload hleaf
  obtain ⟨outcome, houtcome, -⟩ := settings.exists_report r none
  have hverified : verified = verdictStatus outcome.isValid :=
    status_verify_of_holdsProof transport files s hsettings hverify hholds houtcome
  have hdecoded : decoded =
      (run env transport files ("decode" :: Encoding.printedSlots r) s).1.status := by
    rw [← splitBlanks_output hencode hload]
  refine ⟨r, outcome, hholds, houtcome, hverified, fun hfits => ?_, fun hfits => ?_⟩
  · rw [hdecoded, hverified]
    exact status_decode_printed transport files s hsettings hfits houtcome
  · rw [hdecoded]
    exact status_decode_printed_of_not_fits transport files s hsettings hfits

/-- One stray peak: both commands tell of the rejection. -/
theorem decode_printed_status_stray_peak :
    let env : Environment := fun _ => none
    let command (args : List Text) :=
      (run env (App.transport env) (proofFolder (strayFile 1)) args .initial).1
    let fields := Text.splitBlanks (command ["encode", "p.json"]).output
    ExpectsNoLeaf (strayFile 1) ∧ (command ["encode", "p.json"]).status = 0 ∧
      (command ("decode" :: fields)).status = 1 ∧ (command ["verify", "p.json"]).status = 1 := by
  intro env command fields
  have hsettings : Settings.read env = .ok presetSettings := read_presetSettings
  have hleaf := expectsNoLeaf_strayFile 1
  have hencoded : (command ["encode", "p.json"]).status = 0 :=
    status_encode_strayFile 1 (App.transport env) .initial
  have hverified : (command ["verify", "p.json"]).status = 1 :=
    status_verify_strayFile 1 (App.transport env) .initial Nat.one_ne_zero
  obtain ⟨r, outcome, hholds, -, -, hsame, -⟩ := decode_printed_status (App.transport env)
    (proofFolder (strayFile 1)) .initial hsettings (read_verify_strayFile 1)
    (read_encode_strayFile 1) hleaf hencoded
  have hload := loadRequest_strayFile 1 "p.json" hsettings
  have hr := holdsProof_unique (holdsProof_of_loadRequest hload hleaf) hholds
  have hfits : Encoding.Fits (.compact (strayPeaks 1)) := ⟨by decide, by decide⟩
  have hdecoded := hsame (hr ▸ hfits)
  exact ⟨hleaf, hencoded, hdecoded.trans hverified, hverified⟩

/-- With 65 stray peaks `encode` prints slots that `decode` tells to be malformed, while `verify`
tells of the rejection. -/
theorem decode_printed_status_too_many_peaks :
    let env : Environment := fun _ => none
    let command (args : List Text) :=
      (run env (App.transport env) (proofFolder (strayFile 65)) args .initial).1
    let fields := Text.splitBlanks (command ["encode", "p.json"]).output
    (∃ settings, Settings.read env = .ok settings) ∧ ExpectsNoLeaf (strayFile 65) ∧
      (command ["encode", "p.json"]).status = 0 ∧
      (command ("decode" :: fields)).status = 2 ∧ (command ["verify", "p.json"]).status = 1 := by
  intro env command fields
  have hsettings : Settings.read env = .ok presetSettings := read_presetSettings
  have hmany : ¬Encoding.Fits (.compact (strayPeaks 65)) := fun h => absurd h.peaks_le (by decide)
  exact ⟨⟨presetSettings, hsettings⟩, expectsNoLeaf_strayFile 65,
    status_encode_strayFile 65 (App.transport env) .initial,
    status_decode_strayFile 65 (App.transport env) .initial hmany,
    status_verify_strayFile 65 (App.transport env) .initial (by decide)⟩

end Command

end MountainRange
