import MountainRange.Proofs.Documents
import MountainRange.Proofs.ExitStatus
import MountainRange.Proofs.Invocations
import MountainRange.Proofs.Refusals
set_option autoImplicit false

/-!
# The status of `verify`

Zero and one are the verdict on the proof in a file, and two is told of a file that holds
none and of settings that are not valid.  One error is not accounted for and ends the
command with one, without a verdict: an integer with too many digits, anywhere in the file.
-/

namespace MountainRange

/-! ## Verdicts on payloads -/

/-- An error of the service that its input is to blame for, and not the verifier. -/
def ServiceError.OfInput (e : ServiceError) : Prop := ∀ fault, e ≠ .verification fault

namespace Service

open ServiceError (OfInput)

theorem ofInput_ofIssues (issues : List Payload.Issue) : OfInput (.ofIssues issues) := by
  unfold ServiceError.ofIssues
  split
  · exact nofun
  · exact nofun

section Failures

variable {P : ServiceError → Prop} (hfield : ∀ e, P (.field e)) (hrequest : ∀ e, P (.request e))

include hfield hrequest in
theorem failsWith_buildInclusion {D : Type} (parse : Value → Except FieldError D)
    (p : Payload.Proof) : FailsWith P (buildInclusion parse p) := by
  have hdigest : ∀ t, FailsWith P ((parse (.text t)).mapError ServiceError.field) :=
    fun t => .mapError hfield
  unfold buildInclusion
  dsimp only
  refine (hdigest p.root).bind fun _ => (hdigest p.leaf).bind fun _ => ?_
  refine (FailsWith.mapM hdigest _).bind fun _ => (FailsWith.mapM hdigest _).bind fun _ => ?_
  refine (FailsWith.mapError hrequest).bind fun _ => (FailsWith.mapError hrequest).bind fun _ => ?_
  exact .ok _

include hfield hrequest in
theorem failsWith_buildRequest (p : Payload.Proof) : FailsWith P (buildRequest p) := by
  unfold buildRequest
  split
  · exact (failsWith_buildInclusion hfield hrequest _ p).map
  · exact (failsWith_buildInclusion hfield hrequest _ p).map

include hfield in
theorem failsWith_expectedLeaf (p : Payload.Proof) : FailsWith P (expectedLeaf p) := by
  unfold expectedLeaf
  split
  · exact .ok _
  · unfold parseDigest
    split
    · exact (FailsWith.mapError hfield).map.map
    · exact (FailsWith.mapError hfield).map.map

include hfield hrequest in
/-- With valid settings a structured proof fails only for its digests and numbers. -/
theorem failsWith_verifyProof (settings : Settings) (p : Payload.Proof) :
    FailsWith P (verifyProof settings.options p) := by
  refine (failsWith_buildRequest hfield hrequest p).bind fun r => ?_
  refine (failsWith_expectedLeaf hfield p).bind fun expected => ?_
  obtain ⟨outcome, -, hreport⟩ := settings.exists_report r expected
  rw [hreport]
  exact .ok _

end Failures

/-- With valid settings the verifier is never to blame for an error. -/
theorem failsWith_verify (settings : Settings) (fields : Payload.Fields) :
    FailsWith OfInput (verify settings.options (.object fields)) :=
  (FailsWith.mapError ofInput_ofIssues).bind fun p =>
    failsWith_verifyProof (fun _ _ => nofun) (fun _ _ => nofun) settings p

/-- An object is a payload whose parts make a request, and this is the leaf that the request
has to be for. -/
def Builds (fields : Payload.Fields) (r : Request) (expected : Option Operand) : Prop :=
  ∃ p, Payload.Proof.read fields = .ok p ∧ buildRequest p = .ok r ∧ expectedLeaf p = .ok expected

variable {settings : Settings} {fields : Payload.Fields} {r : Request} {expected : Option Operand}

theorem Builds.verify_eq (options : Options) (h : Builds fields r expected) :
    verify options (.object fields) = report options r expected := by
  obtain ⟨p, hread, hrequest, hleaf⟩ := h
  rw [verify, readProof, hread]
  show verifyProof options p = _
  rw [verifyProof, hrequest]
  show (expectedLeaf p >>= fun expected => report options r expected) = _
  rw [hleaf]
  rfl

theorem builds_of_verify_eq_ok {options : Options} {result : Report}
    (h : verify options (.object fields) = .ok result) :
    ∃ r expected, Builds fields r expected := by
  obtain ⟨p, hread, h⟩ := bind_eq_ok_iff.mp h
  obtain ⟨r, hrequest, h⟩ := bind_eq_ok_iff.mp h
  obtain ⟨expected, hleaf, -⟩ := bind_eq_ok_iff.mp h
  exact ⟨r, expected, p, mapError_eq_ok hread, hrequest, hleaf⟩

theorem exists_object_of_readProof {ε : Type} {x : Except ε Value} {p : Payload.Proof}
    (h : x.toOption.bind (fun v => (readProof v).toOption) = some p) :
    ∃ fields, x = .ok (.object fields) ∧ Payload.Proof.read fields = .ok p := by
  obtain ⟨v, hv, hp⟩ := Option.bind_eq_some_iff.mp h
  cases x with
  | error e => cases hv
  | ok v' =>
      obtain rfl : v' = v := Option.some.inj hv
      cases v' with
      | object fields =>
          refine ⟨fields, rfl, ?_⟩
          have hread : readProof (.object fields) =
              (Payload.Proof.read fields).mapError .ofIssues := rfl
          rw [hread] at hp
          cases hfields : Payload.Proof.read fields with
          | error issues =>
              rw [hfields] at hp
              cases hp
          | ok p' =>
              rw [hfields] at hp
              exact congrArg Except.ok (Option.some.inj hp)
      | _ => cases hp

/-- An object that makes no request is an error of the input. -/
theorem verify_eq_error (settings : Settings) (h : ¬∃ r expected, Builds fields r expected) :
    ∃ e, verify settings.options (.object fields) = .error e ∧ OfInput e := by
  cases hverify : verify settings.options (.object fields) with
  | ok result => exact absurd (builds_of_verify_eq_ok hverify) h
  | error e => exact ⟨e, rfl, failsWith_verify settings fields e hverify⟩

end Service

namespace Command

/-! ## Runs -/

/-- The report on the proof in a file under the settings at hand. -/
def fileReport (env : Environment) (flags : VerifyFlags) (file : InputFile) :
    Except Ending Value := do
  verifyHere env flags (← loadProof file)

/-- The status of `verify` without a remote service is that of the report on its file. -/
theorem status_run_verify {σ : Type} (env : Environment) (transport : Http.Transport σ)
    (files : Files) (s : σ) (file : InputFile) (legacyAnywhere : Bool)
    (parity : Option Convention) (format : Format) :
    ((Invocation.verify file { legacyAnywhere, parity, format }).run env transport files
        s).1.encoded.status =
      reportStatus files format (fileReport env { legacyAnywhere, parity, format } file) := by
  rw [Invocation.run, runVerify, fileReport]
  cases loadProof file with
  | error ending => rfl
  | ok fields =>
      have hreport : (Except.ok fields >>= verifyHere env { legacyAnywhere, parity, format }) =
          verifyHere env { legacyAnywhere, parity, format } fields := rfl
      have hfields : withExpectedLeaf fields none = fields := rfl
      rw [hreport]
      dsimp only
      rw [hfields]
      cases verifyHere env { legacyAnywhere, parity, format } fields <;> rfl

/-! ## Verdicts on files -/

/-- A file holds the text of an object that makes a request, which has to be for this
leaf. -/
def HoldsProof (content : Content) (r : Request) (expected : Option Operand) : Prop :=
  ∃ document fields, content.text? = some document ∧
    Json.read document = .ok (.object fields) ∧ Service.Builds fields r expected

/-- The settings are valid, the file holds a proof, and this is the verdict on it. -/
def VerifyVerdict (env : Environment) (legacyAnywhere : Bool) (parity : Option Convention)
    (content : Content) (outcome : Outcome) : Prop :=
  ∃ settings r expected, Settings.read env = .ok settings ∧ HoldsProof content r expected ∧
    r.explain expected (settings.overridden legacyAnywhere parity).options = .ok outcome

/-- An error that `verify` does not account for: an integer of the file has too many digits. -/
def VerifyCrash (content : Content) : Prop :=
  ∃ document count, content.text? = some document ∧ Text.Numeral.maxDigits < count ∧
    Json.read document = .error (.numeral (.tooManyDigits count))

/-- The file holds no proof, or the settings are not valid. -/
def VerifyMalformed (env : Environment) (content : Content) : Prop :=
  ¬VerifyCrash content ∧
    ¬∃ settings r expected, Settings.read env = .ok settings ∧ HoldsProof content r expected

section Verify

variable {env : Environment} {file : InputFile} {fields : Payload.Fields} {outcome : Outcome}
variable {legacyAnywhere : Bool} {parity : Option Convention} {format : Format}

theorem status_ofProofError {e : ServiceError} (h : e.OfInput) :
    (Ending.ofProofError e).status = 2 := by
  cases e with
  | verification fault => exact absurd rfl (h fault)
  | _ => rfl

theorem loadProof_eq_ok_iff : loadProof file = .ok fields ↔
    ∃ document, file.content.text? = some document ∧
      Json.read document = .ok (.object fields) := by
  simp only [Content.text?_eq_some_iff]
  unfold loadProof
  cases file.content.read with
  | error error => simp
  | ok document =>
      simp only [Except.ok.injEq, exists_eq_left']
      split <;> simp_all

/-- A file that holds no object is told to be malformed, unless an integer of it is too
long. -/
theorem loadProof_eq_error {ending : Ending} (h : loadProof file = .error ending)
    (hcrash : ¬VerifyCrash file.content) : ending.status = 2 := by
  unfold loadProof at h
  split at h
  · cases h
    rfl
  · next document hdocument =>
      split at h
      · cases h
      · cases h
        rfl
      · cases h
        rfl
      · next error hmalformed hread =>
          cases error with
          | malformed cause position => exact absurd rfl (hmalformed cause position)
          | numeral error =>
              obtain ⟨count, hcount, rfl⟩ := Json.maxDigits_lt_of_read hread
              have htext := Content.text?_eq_some_iff.mpr hdocument
              exact absurd ⟨document, count, htext, hcount, hread⟩ hcrash

theorem verifyHere_eq_ok {settings : Settings} {r : Request} {expected : Option Operand}
    (hsettings : Settings.read env = .ok settings) (hbuilds : Service.Builds fields r expected)
    (houtcome : r.explain expected (settings.overridden legacyAnywhere parity).options =
      .ok outcome) :
    verifyHere env { legacyAnywhere, parity, format } fields =
      .ok (Report.ofOutcome r.mode outcome).toValue := by
  rw [verifyHere, localOptions_eq, hsettings]
  show (Except.mapError _ (Service.verify _ _) >>= _) = _
  rw [hbuilds.verify_eq, Service.report, houtcome]
  rfl

theorem verifyHere_of_settings_error {error : SettingsError} (h : Settings.read env = .error error)
    (flags : VerifyFlags) (fields : Payload.Fields) :
    verifyHere env flags fields = .error (.told (.proofSettings error)) := by
  rw [verifyHere, localOptions_eq, h]
  rfl

/-- Without valid settings, and for an object that makes no request, the input is to
blame. -/
theorem verifyHere_eq_error (h : ¬∃ settings r expected,
      Settings.read env = .ok settings ∧ Service.Builds fields r expected) :
    ∃ ending, verifyHere env { legacyAnywhere, parity, format } fields = .error ending ∧
      ending.status = 2 := by
  cases hsettings : Settings.read env with
  | error error => exact ⟨_, verifyHere_of_settings_error hsettings _ fields, rfl⟩
  | ok settings =>
      have hbuilds : ¬∃ r expected, Service.Builds fields r expected :=
        fun ⟨r, expected, hr⟩ => h ⟨settings, r, expected, hsettings, hr⟩
      obtain ⟨e, he, hinput⟩ :=
        Service.verify_eq_error (settings.overridden legacyAnywhere parity) hbuilds
      refine ⟨.ofProofError e, ?_, status_ofProofError hinput⟩
      rw [verifyHere, localOptions_eq, hsettings]
      show (Except.mapError _ (Service.verify _ _) >>= _) = _
      rw [he]
      rfl

/-! ### The three cases -/

theorem VerifyVerdict.fileReport_eq
    (h : VerifyVerdict env legacyAnywhere parity file.content outcome) : ∃ mode,
      fileReport env { legacyAnywhere, parity, format } file =
        .ok (Report.ofOutcome mode outcome).toValue := by
  obtain ⟨settings, r, expected, hsettings, ⟨document, fields, hdocument, hread, hbuilds⟩,
    houtcome⟩ := h
  have hload : loadProof file = .ok fields := loadProof_eq_ok_iff.mpr ⟨document, hdocument, hread⟩
  refine ⟨r.mode, ?_⟩
  rw [fileReport, hload]
  exact verifyHere_eq_ok hsettings hbuilds houtcome

theorem VerifyCrash.fileReport_eq (flags : VerifyFlags) (h : VerifyCrash file.content) :
    ∃ crash, fileReport env flags file = .error (.crashed crash) := by
  obtain ⟨document, count, hdocument, -, hread⟩ := h
  refine ⟨.file document (.numeral (.tooManyDigits count)), ?_⟩
  rw [fileReport, loadProof, Content.text?_eq_some_iff.mp hdocument]
  simp only [hread]
  rfl

theorem VerifyMalformed.fileReport_eq (h : VerifyMalformed env file.content) : ∃ ending,
    fileReport env { legacyAnywhere, parity, format } file = .error ending ∧
      ending.status = 2 := by
  obtain ⟨hshort, hnone⟩ := h
  rw [fileReport]
  cases hload : loadProof file with
  | error ending => exact ⟨ending, rfl, loadProof_eq_error hload hshort⟩
  | ok fields =>
      obtain ⟨document, hdocument, hread⟩ := loadProof_eq_ok_iff.mp hload
      have hbuilds : ¬∃ settings r expected,
          Settings.read env = .ok settings ∧ Service.Builds fields r expected :=
        fun ⟨settings, r, expected, hsettings, hr⟩ => hnone
          ⟨settings, r, expected, hsettings, document, fields, hdocument, hread, hr⟩
      exact verifyHere_eq_error hbuilds

theorem verify_cases (env : Environment) (legacyAnywhere : Bool) (parity : Option Convention)
    (content : Content) : (∃ outcome, VerifyVerdict env legacyAnywhere parity content outcome) ∨
      VerifyCrash content ∨ VerifyMalformed env content := by
  by_cases hlong : VerifyCrash content
  · exact .inr (.inl hlong)
  by_cases hholds : ∃ settings r expected,
      Settings.read env = .ok settings ∧ HoldsProof content r expected
  · obtain ⟨settings, r, expected, hsettings, hproof⟩ := hholds
    obtain ⟨outcome, houtcome, -⟩ :=
      (settings.overridden legacyAnywhere parity).exists_report r expected
    exact .inl ⟨outcome, settings, r, expected, hsettings, hproof, houtcome⟩
  · exact .inr (.inr ⟨hlong, hholds⟩)

end Verify

/-- The status of `verify` without a remote service is zero for a proof that is accepted and
two if the file holds no proof or the settings are not valid.  It is one for a proof that is
rejected, but also for a file with an integer of more than 4300 digits, whatever else it
holds. -/
theorem verify_status {σ : Type} (env : Environment) (transport : Http.Transport σ)
    (files : Files) (s : σ) {args : List Text} {path : Text} {content : Content}
    {legacyAnywhere : Bool} {parity : Option Convention} {format : Format}
    (hargs : Invocation.read files args =
      .ok (.verify ⟨path, content⟩ { legacyAnywhere, parity, format })) :
    let status := (run env transport files args s).1.status
    (status = 0 ↔ VerifyVerdict env legacyAnywhere parity content .accepted) ∧
      (status = 1 ↔
        (∃ rejection, VerifyVerdict env legacyAnywhere parity content (.rejected rejection)) ∨
          VerifyCrash content) ∧
      (status = 2 ↔ VerifyMalformed env content) := by
  intro status
  let file : InputFile := ⟨path, content⟩
  have hstatus : status =
      reportStatus files format (fileReport env { legacyAnywhere, parity, format } file) :=
    (status_run env transport files s hargs).trans
      (status_run_verify env transport files s file legacyAnywhere parity format)
  have hverdict : ∀ outcome, VerifyVerdict env legacyAnywhere parity file.content outcome → ∃ mode,
      fileReport env { legacyAnywhere, parity, format } file =
        .ok (Report.ofOutcome mode outcome).toValue := fun _ h => h.fileReport_eq
  have hcrash : VerifyCrash file.content → ∃ cause,
      fileReport env { legacyAnywhere, parity, format } file = .error (.crashed cause) :=
    fun h => h.fileReport_eq _
  have hmalformed : VerifyMalformed env file.content → ∃ ending,
      fileReport env { legacyAnywhere, parity, format } file = .error ending ∧
        ending.status = 2 := fun h => h.fileReport_eq
  rw [hstatus]
  exact reportStatus_iff files format hverdict hcrash hmalformed
    (verify_cases env legacyAnywhere parity content)

/-- The folder at hand with one file. -/
def proofFolder (content : Content) : Files := ⟨[(["p.json"], content)], []⟩

theorem lookUp_proofFolder (content : Content) :
    lookUp (proofFolder content) "p.json" = .ok (some (.file content)) := rfl

/-- A compact proof that has a peak in an empty range. -/
def proofObject : String :=
  "\x7b\"mode\": 2, \"root\": \"0x0\", \"leaf\": \"0x0\", \"leaf_index\": 0, " ++
    "\"mmr_size\": 0, \"peaks\": [\"0x0\"]\x7d"

/-- A file with that proof. -/
theorem verify_status_rejected :
    let env : Environment := fun _ => none
    let content : Content := proofObject.toList.flatMap String.utf8EncodeChar
    let args : List Text := "verify" :: verifyArguments "p.json" true (some .evenIsLeft)
    Invocation.read (proofFolder content) args = .ok (.verify ⟨"p.json", content⟩
        { legacyAnywhere := true, parity := some .evenIsLeft }) ∧
      VerifyVerdict env true (some .evenIsLeft) content (.rejected (.peakCount 0 0 1)) ∧
      (run env (App.transport env) (proofFolder content) args .initial).1.status = 1 := by
  intro env content args
  have hargs : Invocation.read (proofFolder content) args = .ok (.verify ⟨"p.json", content⟩
      { legacyAnywhere := true, parity := some .evenIsLeft }) :=
    Invocation.read_verify (by decide) (lookUp_proofFolder content) true (some .evenIsLeft)
  have hverdict : VerifyVerdict env true (some .evenIsLeft) content
      (.rejected (.peakCount 0 0 1)) := by
    let document : Text := Text.ofChars proofObject.toList
    let p : Payload.Proof := ⟨.compact, "0x0", "0x0", none, 0, 0, [], ["0x0"]⟩
    let settings : Settings :=
      ⟨.positional, .oddIsLeft, 0, "127.0.0.1", 8000, "http://127.0.0.1:8000"⟩
    have hdocument : content.text? = some document := Content.text?_flatMap (by decide)
    -- The kernel reads the document; values are not compared, so it is the payload that is.
    have hpayload : (Json.read document).toOption.bind
        (fun v => (Service.readProof v).toOption) = some p := by decide +kernel
    obtain ⟨fields, hread, hfields⟩ := Service.exists_object_of_readProof hpayload
    have hzero : Text.SpellsHex 0 "0x0" := ⟨0, ['0'], by decide, rfl⟩
    have hspells : p.Spells (.compact strayPeak) :=
      ⟨rfl, hzero, hzero, rfl, rfl, rfl, .nil, .cons hzero .nil⟩
    have hbuilds : Service.Builds fields (.compact strayPeak) none :=
      ⟨p, hfields, Service.buildRequest_eq_ok hspells, rfl⟩
    exact ⟨settings, .compact strayPeak, none, rfl, ⟨document, fields, hdocument, hread, hbuilds⟩,
      explain_strayPeak rfl⟩
  exact ⟨hargs, hverdict, (verify_status env (App.transport env) (proofFolder content) .initial
    hargs).2.1.mpr (.inl ⟨_, hverdict⟩)⟩

/-- A file of 4301 ones: there is no verdict, and the status is one. -/
theorem verify_status_without_verdict :
    let env : Environment := fun _ => none
    let content : Content := List.replicate 4301 0x31
    (∀ outcome, ¬VerifyVerdict env false none content outcome) ∧
      (run env (App.transport env) (proofFolder content) ["verify", "p.json"]
        .initial).1.status = 1 := by
  intro env content
  have hdocument : content.text? = some (Json.ones 4301) := Content.text?_ones 4301
  have hread : Json.read (Json.ones 4301) = .error (.numeral (.tooManyDigits 4301)) :=
    Json.read_ones (by decide)
  have hcrash : VerifyCrash content := ⟨_, _, hdocument, by decide, hread⟩
  have hargs : Invocation.read (proofFolder content) ["verify", "p.json"] =
      .ok (.verify ⟨"p.json", content⟩ {}) :=
    Invocation.read_verify (by decide) (lookUp_proofFolder content) false none
  have hreport : ∃ crash, fileReport env {} ⟨"p.json", content⟩ = .error (.crashed crash) :=
    VerifyCrash.fileReport_eq {} hcrash
  refine ⟨?_, ?_⟩
  · rintro outcome ⟨-, -, -, -, ⟨document, fields, htext, hobject, -⟩, -⟩
    obtain rfl := Option.some.inj (hdocument.symm.trans htext)
    rw [hread] at hobject
    cases hobject
  · obtain ⟨crash, hreport⟩ := hreport
    rw [status_run env (App.transport env) (proofFolder content) .initial hargs,
      status_run_verify, hreport]
    rfl

end Command

end MountainRange
