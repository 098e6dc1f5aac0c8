import MountainRange.Proofs.PrintedSlots
import MountainRange.Proofs.Regrouping
import MountainRange.Proofs.RemoteStatus
set_option autoImplicit false

/-!
# Leaves that are given

A leaf that is given to `verify` takes the place of the one that the file expects.  The proof is
accepted for it exactly if it is accepted for whatever leaf it shows, and the text that was given
spells that leaf in base sixteen.  An empty text is taken for none, and then the file has its own
way.
-/

namespace MountainRange

open Text (SpellsHex)

/-! ## Hexadecimal texts -/

/-- A digest is made of its own number only. -/
theorem WideDigest.eq_toNat_of_ofInt? {n : Int} {d : WideDigest} (h : ofInt? n = .ok d) :
    n = d.toNat := by
  unfold ofInt? at h
  split at h
  · next hfits =>
      cases h
      rw [toNat, ofNat]
      dsimp only
      rw [Nat.div_add_mod', Int.toNat_of_nonneg hfits.1]
  · cases h

theorem CompactDigest.eq_toNat_of_ofInt? {n : Int} {d : CompactDigest} (h : ofInt? n = .ok d) :
    n = d.toNat := by
  unfold ofInt? at h
  split at h
  · next hfelt =>
      cases h
      exact (Number.below?_eq_some_iff fieldPrime _ _).mp hfelt
  · cases h

namespace Payload

/-- A text passes for hexadecimal exactly if it spells a number. -/
theorem hexFault?_eq_none_iff {t : Text} : hexFault? t = none ↔ ∃ n, SpellsHex n t := by
  refine ⟨fun h => ?_, fun ⟨n, hn⟩ => hexFault?_of_spellsHex hn⟩
  unfold hexFault? at h
  split at h
  · cases h
  · cases h
  · next digits hdigits hmark =>
      split at h
      · next hhex =>
          unfold FieldText.afterMark at hmark
          split at hmark
          · cases hmark
            have hvalues : digits.map Text.hexDigit? =
                (digits.map fun c => (Text.hexDigit? c).getD 0).map some := by
              rw [List.map_map]
              refine List.map_congr_left fun c hc => ?_
              obtain ⟨d, hd⟩ := Option.isSome_iff_exists.mp (List.all_eq_true.mp hhex c hc)
              rw [Function.comp_apply, hd, Option.getD_some]
            have hne : digits ≠ [] := fun hnil => hdigits (hnil ▸ rfl)
            exact ⟨_, Text.spellsHex_of_digits hvalues (mt List.map_eq_nil_iff.mp hne)⟩
          · cases hmark
      · cases h

/-! ## Fields with another leaf -/

section Fields

variable {α : Type} {fields : Fields} {name other : Text} {v : Value} {x : α}
  {read : List Place → Value → Checked α}

theorem field?_setField (fields : Fields) (name : Text) (v : Value) (other : Text) :
    Value.field? (Value.setField fields name v) other =
      if name = other then some v else Value.field? fields other := Entries.get?_put ..

/-- A field is read whatever is set beside it. -/
theorem required_setField (h : name ≠ other) :
    required (Value.setField fields name v) other read = .ok x ↔
      required fields other read = .ok x := by
  rw [required, required, field?_setField, if_neg h]
  cases Value.field? fields other with
  | none => simp [Checked.issue]
  | some w => exact Iff.rfl

theorem optional_setField (default : α) (h : name ≠ other) :
    optional (Value.setField fields name v) other default read =
      optional fields other default read := by
  rw [optional, optional, field?_setField, if_neg h]

theorem optional_setField_self (default : α) :
    optional (Value.setField fields name v) name default read = read [.name name] v := by
  rw [optional, field?_setField, if_pos rfl]

end Fields

/-- The fields of a proof for whatever leaf. -/
def forAnyLeaf (fields : Fields) : Fields := Value.setField fields "expected_leaf" .null

theorem eq_of_hex_eq_ok {place : List Place} {v : Value} {t : Text} (h : hex place v = .ok t) :
    v = .text t ∧ hexFault? t = none := by
  unfold hex at h
  obtain ⟨t', ht', h⟩ := bind_eq_ok_iff.mp h
  cases v with
  | text s =>
      cases ht'
      split at h
      · next hfault =>
          cases h
          exact ⟨rfl, hfault⟩
      · cases h
  | _ => cases ht'

theorem hexOrNull_text_iff {place : List Place} {t : Text} {x : Option Text} :
    hexOrNull place (.text t) = .ok x ↔ hexFault? t = none ∧ x = some t := by
  constructor
  · intro h
    obtain ⟨t', ht', rfl⟩ := map_eq_ok h
    obtain ⟨htext, hfault⟩ := eq_of_hex_eq_ok ht'
    cases htext
    exact ⟨hfault, rfl⟩
  · rintro ⟨hfault, rfl⟩
    show some <$> hex place (.text t) = _
    rw [hex_eq_ok place hfault]
    rfl

theorem hasParts_setField {fields : Fields} {v : Value} {p : Proof} :
    HasParts (Value.setField fields "expected_leaf" v) p ↔ HasParts fields p := by
  unfold HasParts
  rw [required_setField (by decide), required_setField (by decide), required_setField (by decide),
    required_setField (by decide), required_setField (by decide), optional_setField [] (by decide),
    optional_setField [] (by decide)]

/-- For any leaf a proof is read by its other parts. -/
theorem Proof.read_forAnyLeaf_iff {fields : Fields} {p : Proof} :
    Proof.read (forAnyLeaf fields) = .ok p ↔ HasParts fields p ∧ p.expectedLeaf = none := by
  have hnull : hexOrNull [.name "expected_leaf"] .null = .ok none := rfl
  rw [read_eq_ok_iff, forAnyLeaf, hasParts_setField, optional_setField_self, hnull]
  simp [eq_comm]

/-- With a leaf in the field a proof is read as it is for any leaf, and the leaf on its own. -/
theorem Proof.read_setField_iff {fields : Fields} {leaf : Text} {p : Proof} :
    Proof.read (Value.setField fields "expected_leaf" (.text leaf)) = .ok p ↔
      Proof.read (forAnyLeaf fields) = .ok { p with expectedLeaf := none } ∧
        hexFault? leaf = none ∧ p.expectedLeaf = some leaf := by
  rw [read_eq_ok_iff, hasParts_setField, optional_setField_self, hexOrNull_text_iff,
    read_forAnyLeaf_iff, and_iff_left rfl]
  exact Iff.rfl

end Payload

/-! ## Requests for whatever leaf -/

namespace Service

variable {p : Payload.Proof} {r : Request} {t : Text}

/-- A request is made under the mode of its proof. -/
theorem cases_of_buildRequest (h : buildRequest p = .ok r) :
    (∃ proof, p.mode = .wide ∧ buildInclusion FieldText.parseWide p = .ok proof ∧
        .wide proof = r) ∨
      ∃ proof, p.mode = .compact ∧ buildInclusion FieldText.parseCompact p = .ok proof ∧
        .compact proof = r := by
  unfold buildRequest at h
  split at h
  · next hmode =>
      obtain ⟨proof, hproof, hr⟩ := map_eq_ok h
      exact .inl ⟨proof, hmode, hproof, hr⟩
  · next hmode =>
      obtain ⟨proof, hproof, hr⟩ := map_eq_ok h
      exact .inr ⟨proof, hmode, hproof, hr⟩

theorem mode_of_buildRequest (h : buildRequest p = .ok r) : r.mode = p.mode := by
  obtain ⟨proof, hmode, -, rfl⟩ | ⟨proof, hmode, -, rfl⟩ := cases_of_buildRequest h
  · exact hmode.symm
  · exact hmode.symm

theorem leaf_of_buildInclusion {D : Type} {parse : Value → Except FieldError D}
    {proof : Inclusion D} (h : buildInclusion parse p = .ok proof) :
    parse (.text p.leaf) = .ok proof.leaf := by
  obtain ⟨root, -, h⟩ := bind_eq_ok_iff.mp h
  obtain ⟨leaf, hleaf, h⟩ := bind_eq_ok_iff.mp h
  obtain ⟨siblings, -, h⟩ := bind_eq_ok_iff.mp h
  obtain ⟨peaks, -, h⟩ := bind_eq_ok_iff.mp h
  obtain ⟨leafIndex, -, h⟩ := bind_eq_ok_iff.mp h
  obtain ⟨size, -, h⟩ := bind_eq_ok_iff.mp h
  cases h
  exact mapError_eq_ok hleaf

/-- The leaf of a request is the digest that the leaf of its proof spells under its mode. -/
theorem leaf_of_buildRequest (h : buildRequest p = .ok r) :
    parseDigest p.mode p.leaf = .ok r.leaf := by
  obtain ⟨proof, hmode, hproof, rfl⟩ | ⟨proof, hmode, hproof, rfl⟩ := cases_of_buildRequest h
  · rw [hmode, parseDigest, leaf_of_buildInclusion hproof]
    rfl
  · rw [hmode, parseDigest, leaf_of_buildInclusion hproof]
    rfl

/-- A text that is read as a digest is the number of the digest. -/
theorem parse_of_parseDigest {mode : Mode} {d : Digest} (h : parseDigest mode t = .ok d) :
    FieldText.parse (.text t) = .ok (d.toNat : Int) := by
  cases mode with
  | wide =>
      obtain ⟨e, he, rfl⟩ := map_eq_ok h
      obtain ⟨n, hn, he⟩ := bind_eq_ok_iff.mp (mapError_eq_ok he)
      rw [hn, WideDigest.eq_toNat_of_ofInt? (mapError_eq_ok he)]
      rfl
  | compact =>
      obtain ⟨e, he, rfl⟩ := map_eq_ok h
      obtain ⟨n, hn, he⟩ := bind_eq_ok_iff.mp (mapError_eq_ok he)
      rw [hn, CompactDigest.eq_toNat_of_ofInt? (mapError_eq_ok he)]
      rfl

/-- A hexadecimal text is read as the leaf of a request exactly if it spells it. -/
theorem parseDigest_eq_leaf_iff :
    (Payload.hexFault? t = none ∧ parseDigest r.mode t = .ok r.leaf) ↔
      SpellsHex r.leaf.toNat t := by
  constructor
  · rintro ⟨hfault, hparse⟩
    obtain ⟨n, hn⟩ := Payload.hexFault?_eq_none_iff.mp hfault
    have hread := FieldText.parse_of_spells (FieldText.spells_of_spellsHex hn)
    rw [parse_of_parseDigest hparse] at hread
    rwa [Int.ofNat_inj.mp (Except.ok.inj hread)]
  · intro h
    refine ⟨Payload.hexFault?_of_spellsHex h, ?_⟩
    cases r with
    | wide proof =>
        show ((FieldText.parseWide (.text t)).mapError ServiceError.field).map Digest.wide = _
        rw [FieldText.parseWide_of_spellsHex proof.leaf t h]
        rfl
    | compact proof =>
        show ((FieldText.parseCompact (.text t)).mapError ServiceError.field).map Digest.compact = _
        rw [FieldText.parseCompact_of_spellsHex proof.leaf t h]
        rfl

end Service

/-- A request is accepted for a leaf exactly if it is accepted for any, and the leaf is its own. -/
theorem Request.explain_digest_eq_accepted_iff {r : Request} {d : Digest} {options : Options} :
    r.explain (some (.digest d)) options = .ok .accepted ↔
      r.explain none options = .ok .accepted ∧ d = r.leaf := by
  obtain ⟨mode, proof, rfl⟩ := r.exists_request
  have hnone : (mode.request proof).hasLeaf none = true := rfl
  have hleaf : (mode.request proof).hasLeaf (some (.digest d)) = true ↔
      d = (mode.request proof).leaf := decide_eq_true_iff
  rw [Mode.explain_eq_accepted_iff, Mode.explain_eq_accepted_iff, hleaf, hnone]
  tauto

namespace Service

variable {p : Payload.Proof} {r : Request} {fields : Payload.Fields} {leaf : Text}

theorem expectedLeaf_eq_ok_iff {expected : Option Operand} (h : p.expectedLeaf = some leaf) :
    expectedLeaf p = .ok expected ↔
      ∃ d, parseDigest p.mode leaf = .ok d ∧ expected = some (.digest d) := by
  rw [expectedLeaf, h]
  dsimp only
  constructor
  · intro hexpected
    obtain ⟨d, hd, rfl⟩ := map_eq_ok hexpected
    exact ⟨d, hd, rfl⟩
  · rintro ⟨d, hd, rfl⟩
    rw [hd]
    rfl

/-- A payload with a leaf in its field makes the request that it makes for any leaf, if the text
in the field is read as a digest of its mode. -/
theorem builds_setField_iff {expected : Option Operand} :
    Builds (Value.setField fields "expected_leaf" (.text leaf)) r expected ↔
      Builds (Payload.forAnyLeaf fields) r none ∧ Payload.hexFault? leaf = none ∧
        ∃ d, parseDigest r.mode leaf = .ok d ∧ expected = some (.digest d) := by
  constructor
  · rintro ⟨p, hread, hrequest, hexpected⟩
    obtain ⟨hany, hfault, hleaf⟩ := Payload.Proof.read_setField_iff.mp hread
    rw [expectedLeaf_eq_ok_iff hleaf, ← mode_of_buildRequest hrequest] at hexpected
    exact ⟨⟨_, hany, hrequest, rfl⟩, hfault, hexpected⟩
  · rintro ⟨⟨p, hread, hrequest, -⟩, hfault, hexpected⟩
    rw [mode_of_buildRequest hrequest] at hexpected
    obtain ⟨hparts, -⟩ := Payload.Proof.read_forAnyLeaf_iff.mp hread
    exact ⟨{ p with expectedLeaf := some leaf },
      Payload.Proof.read_setField_iff.mpr
        ⟨Payload.Proof.read_forAnyLeaf_iff.mpr ⟨hparts, rfl⟩, hfault, rfl⟩,
      hrequest, (expectedLeaf_eq_ok_iff rfl).mpr hexpected⟩

end Service

namespace Command

open Service (Builds)

/-! ## Verdicts on files -/

/-- With a leaf in its field a payload is accepted exactly if it is accepted for any leaf and the
text in the field spells its own. -/
theorem payloadVerdict_setField_iff {settings : Settings} {fields : Payload.Fields} {e : Text} :
    PayloadVerdict settings (Value.setField fields "expected_leaf" (.text e)) .accepted ↔
      ∃ r, Builds (Payload.forAnyLeaf fields) r none ∧ SpellsHex r.leaf.toNat e ∧
        r.explain none settings.options = .ok .accepted := by
  constructor
  · rintro ⟨r, expected, hbuilds, haccepted⟩
    obtain ⟨hany, hfault, d, hd, rfl⟩ := Service.builds_setField_iff.mp hbuilds
    obtain ⟨hnone, rfl⟩ := Request.explain_digest_eq_accepted_iff.mp haccepted
    exact ⟨r, hany, Service.parseDigest_eq_leaf_iff.mp ⟨hfault, hd⟩, hnone⟩
  · rintro ⟨r, hany, hspells, haccepted⟩
    obtain ⟨hfault, hd⟩ := Service.parseDigest_eq_leaf_iff.mpr hspells
    exact ⟨r, some (.digest r.leaf), Service.builds_setField_iff.mpr ⟨hany, hfault, _, hd, rfl⟩,
      Request.explain_digest_eq_accepted_iff.mpr ⟨haccepted, rfl⟩⟩

/-- A file holds the text of an object that makes a request, whatever leaf it expects itself. -/
def HoldsRequest (content : Content) (r : Request) : Prop :=
  ∃ document fields, content.text? = some document ∧
    Json.read document = .ok (.object fields) ∧ Builds (Payload.forAnyLeaf fields) r none

/-- The leaf in the object of a file spells a digest under the mode in it. -/
def HoldsLeaf (content : Content) (d : Digest) : Prop :=
  ∃ document fields mode leaf, content.text? = some document ∧
    Json.read document = .ok (.object fields) ∧
    Payload.required fields "mode" Payload.mode = .ok mode ∧
    Value.field? fields "leaf" = some (.text leaf) ∧ Service.parseDigest mode leaf = .ok d

theorem HoldsProof.holdsRequest {content : Content} {r : Request} (h : HoldsProof content r none) :
    HoldsRequest content r := by
  obtain ⟨document, fields, hdocument, hobject, p, hread, hrequest, -⟩ := h
  have hany : Payload.Proof.read (Payload.forAnyLeaf fields) = .ok { p with expectedLeaf := none } :=
    Payload.Proof.read_forAnyLeaf_iff.mpr ⟨(Payload.Proof.read_eq_ok_iff.mp hread).1, rfl⟩
  exact ⟨document, fields, hdocument, hobject, _, hany, hrequest, rfl⟩

/-- The leaf of the request in a file is the one in its object. -/
theorem HoldsRequest.holdsLeaf {content : Content} {r : Request} (h : HoldsRequest content r) :
    HoldsLeaf content r.leaf := by
  obtain ⟨document, fields, hdocument, hobject, p, hread, hrequest, -⟩ := h
  obtain ⟨⟨hmode, -, hleaf, -⟩, -⟩ := Payload.Proof.read_forAnyLeaf_iff.mp hread
  refine ⟨document, fields, p.mode, p.leaf, hdocument, hobject, hmode, ?_,
    Service.leaf_of_buildRequest hrequest⟩
  unfold Payload.required at hleaf
  split at hleaf
  · next v hv => rw [hv, (Payload.eq_of_hex_eq_ok hleaf).1]
  · cases hleaf

section Verify

variable {σ : Type} (env : Environment) (transport : Http.Transport σ) (files : Files) (s : σ)
variable {args : List Text} {path : Text} {content : Content} {flags : VerifyFlags}

theorem status_verify_not_loaded {ending : Ending}
    (hargs : Invocation.read files args = .ok (.verify ⟨path, content⟩ flags))
    (hload : loadProof ⟨path, content⟩ = .error ending) :
    (run env transport files args s).1.status ≠ 0 := by
  have hstatus : ((Invocation.verify ⟨path, content⟩ flags).run env transport files
      s).1.encoded.status = ending.status := by
    rw [Invocation.run, runVerify, hload]
    rfl
  rw [status_run env transport files s hargs, hstatus]
  exact failsWith_loadProof ⟨path, content⟩ ending hload

/-- With an object that is loaded the status is zero exactly if the settings are valid and the
payload that is made of the object is accepted under them. -/
theorem status_verify_loaded_eq_zero_iff {fields : Payload.Fields}
    (hargs : Invocation.read files args = .ok (.verify ⟨path, content⟩ flags))
    (hhere : flags.remote.getD [] = []) (hload : loadProof ⟨path, content⟩ = .ok fields) :
    (run env transport files args s).1.status = 0 ↔ ∃ settings, Settings.read env = .ok settings ∧
      PayloadVerdict (settings.overridden flags.legacyAnywhere flags.parity)
        (withExpectedLeaf fields flags.expectedLeaf) .accepted := by
  rw [status_run env transport files s hargs,
    status_verify_here env transport files s hload flags hhere]
  cases hsettings : Settings.read env with
  | error error =>
      rw [verifyHere_of_settings_error hsettings]
      refine iff_of_false (Ending.status_told_ne_zero (.proofSettings error)) ?_
      rintro ⟨settings, hread, -⟩
      cases hread
  | ok settings =>
      rw [reportStatus_verifyHere_overridden hsettings, (serviceStatus_iff _ _).1]
      constructor
      · exact fun hverdict => ⟨settings, rfl, hverdict⟩
      · rintro ⟨settings', hread, hverdict⟩
        cases hread
        exact hverdict

/-- The status of `verify` without a remote service is zero exactly if the settings are valid and
the payload that is made of the file is accepted. -/
theorem status_verify_eq_zero_iff
    (hargs : Invocation.read files args = .ok (.verify ⟨path, content⟩ flags))
    (hhere : flags.remote.getD [] = []) :
    (run env transport files args s).1.status = 0 ↔ ∃ settings document fields,
      Settings.read env = .ok settings ∧ content.text? = some document ∧
        Json.read document = .ok (.object fields) ∧
        PayloadVerdict (settings.overridden flags.legacyAnywhere flags.parity)
          (withExpectedLeaf fields flags.expectedLeaf) .accepted := by
  constructor
  · intro hzero
    cases hload : loadProof ⟨path, content⟩ with
    | error ending =>
        exact absurd hzero (status_verify_not_loaded env transport files s hargs hload)
    | ok fields =>
        obtain ⟨settings, hsettings, hverdict⟩ :=
          (status_verify_loaded_eq_zero_iff env transport files s hargs hhere hload).mp hzero
        obtain ⟨document, hdocument, hread⟩ := loadProof_eq_ok_iff.mp hload
        exact ⟨settings, document, fields, hsettings, hdocument, hread, hverdict⟩
  · rintro ⟨settings, document, fields, hsettings, hdocument, hread, hverdict⟩
    have hload : loadProof ⟨path, content⟩ = .ok fields :=
      loadProof_eq_ok_iff.mpr ⟨document, hdocument, hread⟩
    exact (status_verify_loaded_eq_zero_iff env transport files s hargs hhere hload).mpr
      ⟨settings, hsettings, hverdict⟩

end Verify

/-! ## A file with a single leaf -/

/-- The range of a single leaf. -/
def oneLeaf : Range Mode.compact.Form := ⟨[⟨5⟩], by decide⟩

/-- A compact proof of the leaf. -/
def leafObject : String :=
  "\x7b\"mode\": 2, " ++
    "\"root\": \"0x30fe0d0b26f9b71417e92676ef4878cceb59996f37abffedecd92a336045854\", " ++
    "\"leaf\": \"0x5\", \"leaf_index\": 0, \"mmr_size\": 1, " ++
    "\"peaks\": [\"0x16d7415cf2ba56fb52c10fed4cf73a3ac3d6c9cd2321248881b644e89f7c8e5\"]\x7d"

/-- A file with that proof. -/
def leafFile : Content := leafObject.toList.flatMap String.utf8EncodeChar

/-- The request in the file. -/
def leafRequest : Request :=
  .compact ⟨⟨0x30fe0d0b26f9b71417e92676ef4878cceb59996f37abffedecd92a336045854⟩, ⟨5⟩, 0, 1, [],
    [⟨0x16d7415cf2ba56fb52c10fed4cf73a3ac3d6c9cd2321248881b644e89f7c8e5⟩]⟩

/-- The call of `verify` for a file and a leaf. -/
theorem read_verify_given (content : Content) (e : Text) :
    Invocation.read (proofFolder content) ["verify", "p.json", "--expected-leaf", e] =
      .ok (.verify ⟨"p.json", content⟩ { expectedLeaf := some e }) := rfl

theorem leafRequest_eq : leafRequest =
    Mode.compact.request (oneLeaf.proof Mode.compact.scheme ⟨0, by decide⟩) := by
  show leafRequest = .compact (oneLeaf.proof poseidonScheme ⟨0, by decide⟩)
  rw [← quickScheme_eq]
  decide +kernel

theorem explain_leafRequest (peakMatch : PeakMatch) (convention : Convention) (threshold : Int) :
    leafRequest.explain none ⟨peakMatch, convention, .below threshold⟩ = .ok .accepted := by
  rw [leafRequest_eq]
  exact Mode.compact.explain_proof oneLeaf ⟨0, by decide⟩ peakMatch convention threshold rfl

theorem holdsProof_leafFile : HoldsProof leafFile leafRequest none := by
  let document : Text := Text.ofChars leafObject.toList
  let p : Payload.Proof :=
    ⟨.compact, "0x30fe0d0b26f9b71417e92676ef4878cceb59996f37abffedecd92a336045854", "0x5", none, 0,
      1, [], ["0x16d7415cf2ba56fb52c10fed4cf73a3ac3d6c9cd2321248881b644e89f7c8e5"]⟩
  have hdocument : leafFile.text? = some document := Content.text?_flatMap (by decide +kernel)
  have hpayload : (Json.read document).toOption.bind
      (fun v => (Service.readProof v).toOption) = some p := by decide +kernel
  obtain ⟨fields, hread, hfields⟩ := Service.exists_object_of_readProof hpayload
  have hspells : p.Spells leafRequest := by
    refine ⟨rfl, ⟨0, _, ?_, rfl⟩, ⟨0, _, ?_, rfl⟩, rfl, rfl, rfl, .nil, .cons ⟨0, _, ?_, rfl⟩ .nil⟩
    all_goals decide +kernel
  exact ⟨document, fields, hdocument, hread, p, hfields, Service.buildRequest_eq_ok hspells, rfl⟩

/-! ## The status for a leaf that is given -/

/-- A leaf that is given is never dropped, unless it is empty.  With a text that is not, the status
of `verify` without a remote service is zero exactly if the request in the file is accepted for
any leaf and the text spells its leaf in base sixteen, whatever leaf the file expects.  So a text
that is accepted spells the leaf in the file under the mode in it.  With an empty text the status is
zero exactly if the proof is accepted as it stands in the file. -/
theorem given_leaf_status {σ : Type} (env : Environment) (transport : Http.Transport σ)
    (files : Files) (s : σ) {args : List Text} {path e : Text} {content : Content}
    {legacyAnywhere : Bool} {parity : Option Convention} {remote : Option Text} {format : Format}
    (hargs : Invocation.read files args = .ok (.verify ⟨path, content⟩
      { expectedLeaf := some e, legacyAnywhere, parity, remote, format }))
    (hhere : remote.getD [] = []) :
    let status := (run env transport files args s).1.status
    (e ≠ [] → (status = 0 ↔ ∃ settings r, Settings.read env = .ok settings ∧
        HoldsRequest content r ∧ SpellsHex r.leaf.toNat e ∧
        r.explain none (settings.overridden legacyAnywhere parity).options = .ok .accepted)) ∧
      (e ≠ [] → status = 0 → ∃ d, HoldsLeaf content d ∧ SpellsHex d.toNat e) ∧
      (e = [] → (status = 0 ↔ VerifyVerdict env legacyAnywhere parity content .accepted)) := by
  intro status
  have hstatus := status_verify_eq_zero_iff env transport files s hargs hhere
  have hgiven : e ≠ [] → (status = 0 ↔ ∃ settings r, Settings.read env = .ok settings ∧
      HoldsRequest content r ∧ SpellsHex r.leaf.toNat e ∧
      r.explain none (settings.overridden legacyAnywhere parity).options = .ok .accepted) := by
    intro he
    rw [hstatus]
    dsimp only
    constructor
    · rintro ⟨settings, document, fields, hsettings, hdocument, hread, hverdict⟩
      rw [withExpectedLeaf_some fields he, payloadVerdict_setField_iff] at hverdict
      obtain ⟨r, hbuilds, hspells, haccepted⟩ := hverdict
      exact ⟨settings, r, hsettings, ⟨document, fields, hdocument, hread, hbuilds⟩, hspells,
        haccepted⟩
    · rintro ⟨settings, r, hsettings, ⟨document, fields, hdocument, hread, hbuilds⟩, hspells,
        haccepted⟩
      refine ⟨settings, document, fields, hsettings, hdocument, hread, ?_⟩
      rw [withExpectedLeaf_some fields he, payloadVerdict_setField_iff]
      exact ⟨r, hbuilds, hspells, haccepted⟩
  refine ⟨hgiven, fun he hzero => ?_, ?_⟩
  · obtain ⟨settings, r, -, hholds, hspells, -⟩ := (hgiven he).mp hzero
    exact ⟨r.leaf, hholds.holdsLeaf, hspells⟩
  · rintro rfl
    rw [hstatus]
    constructor
    · rintro ⟨settings, document, fields, hsettings, hdocument, hread, r, expected, hbuilds, h⟩
      exact ⟨settings, r, expected, hsettings, ⟨document, fields, hdocument, hread, hbuilds⟩, h⟩
    · rintro ⟨settings, r, expected, hsettings, ⟨document, fields, hdocument, hread, hbuilds⟩, h⟩
      exact ⟨settings, document, fields, hsettings, hdocument, hread, r, expected, hbuilds, h⟩

/-- A leaf with a zero in front: the proof in the file is accepted for it. -/
theorem given_leaf_status_accepted :
    let env : Environment := fun _ => none
    let args : List Text := ["verify", "p.json", "--expected-leaf", "0x05"]
    let status := (run env (App.transport env) (proofFolder leafFile) args .initial).1.status
    Invocation.read (proofFolder leafFile) args =
        .ok (.verify ⟨"p.json", leafFile⟩ { expectedLeaf := some "0x05" }) ∧
      status = 0 ∧ ∃ d, HoldsLeaf leafFile d ∧ SpellsHex d.toNat "0x05" := by
  intro env args status
  have hargs : Invocation.read (proofFolder leafFile) args =
      .ok (.verify ⟨"p.json", leafFile⟩ { expectedLeaf := some "0x05" }) := read_verify_given ..
  obtain ⟨hgiven, hleaf, -⟩ :=
    given_leaf_status env (App.transport env) (proofFolder leafFile) .initial hargs rfl
  have hspells : SpellsHex leafRequest.leaf.toNat "0x05" := ⟨1, _, by decide, rfl⟩
  have hzero : status = 0 := (hgiven (by decide)).mpr ⟨presetSettings, leafRequest,
    read_presetSettings, holdsProof_leafFile.holdsRequest, hspells, explain_leafRequest ..⟩
  exact ⟨hargs, hzero, hleaf (by decide) hzero⟩

/-- An empty text spells no leaf, and the proof is accepted all the same. -/
theorem given_leaf_status_empty :
    let env : Environment := fun _ => none
    let args : List Text := ["verify", "p.json", "--expected-leaf", ""]
    Invocation.read (proofFolder leafFile) args =
        .ok (.verify ⟨"p.json", leafFile⟩ { expectedLeaf := some "" }) ∧
      (run env (App.transport env) (proofFolder leafFile) args .initial).1.status = 0 ∧
      ¬∃ d, HoldsLeaf leafFile d ∧ SpellsHex d.toNat "" := by
  intro env args
  have hargs : Invocation.read (proofFolder leafFile) args =
      .ok (.verify ⟨"p.json", leafFile⟩ { expectedLeaf := some "" }) := read_verify_given ..
  obtain ⟨document, fields, hdocument, hread, hbuilds⟩ := holdsProof_leafFile
  refine ⟨hargs, ?_, ?_⟩
  · exact (status_verify_eq_zero_iff env (App.transport env) (proofFolder leafFile) .initial hargs
      rfl).mpr ⟨presetSettings, document, fields, read_presetSettings, hdocument, hread, leafRequest,
        none, hbuilds, explain_leafRequest ..⟩
  · rintro ⟨d, -, zeros, digits, -, htext⟩
    cases htext

end Command

end MountainRange
