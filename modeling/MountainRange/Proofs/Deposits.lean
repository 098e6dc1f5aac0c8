import MountainRange.Proofs.Deliveries
import MountainRange.Proofs.DigestText
set_option autoImplicit false

/-!
# Deposits and the reports on them

There is a deposit for a text and three integers exactly if the text spells a field element
and each integer has room in its part.  The report on its commitment spells the commitment
twice, and comes back as it is from wherever it is written.
-/

namespace MountainRange

namespace Deposit

/-! ## Parts -/

/-- The commitment of the deposit that a text and integers make, without a service. -/
def commitmentOf (recipient : Text) (amount nonce timestamp : Int) :
    Except ServiceError CompactDigest := do
  let recipient ← (FieldText.parse (.text recipient)).mapError .field
  let d ← (make? (.int recipient) (.int amount) (.int nonce) (.int timestamp)).mapError .deposit
  return d.commitment

/-- A text and integers in the ranges of the parts of a deposit. -/
structure Fits (recipient : Text) (amount nonce timestamp : Int) : Prop where
  recipient : ∃ n : Int, FieldText.parse (.text recipient) = .ok n ∧ n < fieldPrime
  amount : 0 ≤ amount ∧ amount < 2 ^ 128
  nonce : 0 ≤ nonce ∧ nonce < 2 ^ 64
  timestamp : 0 ≤ timestamp ∧ timestamp < 2 ^ 64

theorem part?_int_eq_ok_iff {name : String} {bound : Nat} {n : Int} {part : Fin bound} :
    part? name bound (.int n) = .ok part ↔ n = part.val := by
  rw [← Number.below?_eq_some_iff, part?]
  cases Number.below? bound n <;> simp

/-- An integer is a part exactly if it is a natural below the bound. -/
theorem exists_part? {name : String} {bound : Nat} {n : Int} :
    (∃ part, part? name bound (.int n) = .ok part) ↔ 0 ≤ n ∧ n < bound := by
  simp only [part?_int_eq_ok_iff]
  exact Number.exists_eq_val_iff bound n

/-- Four integers are the parts of a deposit exactly if each is below its bound. -/
theorem exists_make? {recipient amount nonce timestamp : Int} :
    (∃ d, make? (.int recipient) (.int amount) (.int nonce) (.int timestamp) = .ok d) ↔
      (0 ≤ recipient ∧ recipient < fieldPrime) ∧ (0 ≤ amount ∧ amount < limbBound) ∧
        (0 ≤ nonce ∧ nonce < UInt64.size) ∧ 0 ≤ timestamp ∧ timestamp < UInt64.size := by
  rw [← @exists_part? "recipient", ← @exists_part? "amount", ← @exists_part? "nonce",
    ← @exists_part? "timestamp"]
  constructor
  · rintro ⟨d, h⟩
    obtain ⟨felt, hrecipient, h⟩ := bind_eq_ok_iff.mp h
    obtain ⟨limb, hamount, h⟩ := bind_eq_ok_iff.mp h
    obtain ⟨word, hnonce, h⟩ := bind_eq_ok_iff.mp h
    obtain ⟨time, htimestamp, -⟩ := bind_eq_ok_iff.mp h
    exact ⟨⟨felt, hrecipient⟩, ⟨limb, hamount⟩, ⟨word, hnonce⟩, time, htimestamp⟩
  · rintro ⟨⟨felt, hrecipient⟩, ⟨limb, hamount⟩, ⟨word, hnonce⟩, time, htimestamp⟩
    refine ⟨⟨felt, limb, .ofNat word.val, .ofNat time.val⟩, ?_⟩
    rw [make?, hrecipient, hamount, hnonce, htimestamp]
    rfl

/-- There is a commitment exactly if the parts are in their ranges. -/
theorem exists_commitmentOf {recipient : Text} {amount nonce timestamp : Int} :
    (∃ digest, commitmentOf recipient amount nonce timestamp = .ok digest) ↔
      Fits recipient amount nonce timestamp := by
  have hlimb : ((limbBound : Nat) : Int) = 2 ^ 128 := by decide
  have hword : ((UInt64.size : Nat) : Int) = 2 ^ 64 := by decide
  constructor
  · rintro ⟨digest, h⟩
    obtain ⟨n, hn, h⟩ := bind_eq_ok_iff.mp h
    obtain ⟨d, hd, -⟩ := bind_eq_ok_iff.mp h
    obtain ⟨hrecipient, hamount, hnonce, htimestamp⟩ := exists_make?.mp ⟨d, mapError_eq_ok hd⟩
    rw [hlimb] at hamount
    rw [hword] at hnonce htimestamp
    exact ⟨⟨n, mapError_eq_ok hn, hrecipient.2⟩, hamount, hnonce, htimestamp⟩
  · rintro ⟨⟨n, hn, hfelt⟩, hamount, hnonce, htimestamp⟩
    obtain ⟨k, rfl, -⟩ := FieldText.spells_of_parse hn
    rw [← hlimb] at hamount
    rw [← hword] at hnonce htimestamp
    obtain ⟨d, hd⟩ :=
      exists_make?.mpr ⟨⟨Int.natCast_nonneg k, hfelt⟩, hamount, hnonce, htimestamp⟩
    refine ⟨d.commitment, bind_eq_ok_iff.mpr ⟨k, ?_, bind_eq_ok_iff.mpr ⟨d, ?_, rfl⟩⟩⟩
    · rw [hn]
      rfl
    · rw [hd]
      rfl

end Deposit

/-- The service reports on the commitment that there is without it. -/
theorem Service.commitment_eq (recipient : Text) (amount nonce timestamp : Int) :
    Service.commitment (.text recipient) (.int amount) (.int nonce) (.int timestamp) =
      (Deposit.commitmentOf recipient amount nonce timestamp).map CommitmentReport.ofDigest := by
  rw [Service.commitment, Deposit.commitmentOf]
  cases FieldText.parse (.text recipient) with
  | error e => rfl
  | ok n =>
      show ((Deposit.make? _ _ _ _).mapError ServiceError.deposit >>= _) =
        ((Deposit.make? _ _ _ _).mapError ServiceError.deposit >>= _).map _
      cases Deposit.make? (.int n) (.int amount) (.int nonce) (.int timestamp) <;> rfl

/-! ## Reports -/

/-- A value has two texts that spell a digest, as reports on commitments have them. -/
def Value.TellsCommitment (v : Value) (digest : CompactDigest) : Prop :=
  ∃ (fields : List (Text × Value)) (hash decimal : Text), v = .object fields ∧
    Value.field? fields "commitment_hash" = some (.text hash) ∧
    Value.field? fields "commitment_decimal" = some (.text decimal) ∧
    FieldText.parseCompact (.text hash) = .ok digest ∧
    FieldText.parseCompact (.text decimal) = .ok digest

/-- The decimal of a digest is read as the digest. -/
theorem CompactDigest.parseCompact_decimal (d : CompactDigest) :
    FieldText.parseCompact (.text (Text.of (toString d.toNat))) = .ok d := by
  have hshort := FieldText.lt_pow_maxDigits_of_lt_fieldPrime d.toNat_lt
  have hparse : FieldText.parse (.text (Text.of (toString d.toNat))) = .ok (d.toNat : Int) :=
    (FieldText.parse_toString d.toNat).trans (if_pos hshort)
  refine bind_eq_ok_iff.mpr ⟨d.toNat, hparse, ?_⟩
  rw [CompactDigest.ofInt?_toNat]
  rfl

namespace CommitmentReport

variable (digest : CompactDigest)

/-- The report on a commitment tells it. -/
theorem tellsCommitment : (ofDigest digest).toValue.TellsCommitment digest := by
  refine ⟨_, _, _, rfl, rfl, rfl, ?_, ?_⟩
  · exact FieldText.parseCompact_of_spellsHex digest _ digest.spellsHex_hex
  · exact digest.parseCompact_decimal

/-- The report on a commitment reads back. -/
theorem readsBack_toValue {style : Json.Style} (hstyle : style.IsStandard) :
    Json.ReadsBack style (ofDigest digest).toValue (ofDigest digest).toValue := by
  have htext : ∀ s : String, Json.ReadsBack style (.text (Text.of s)) (.text (Text.of s)) := by
    intro s
    have hencodable : Text.Encodable (Text.of s) := .ofChars _
    exact Json.readsBack_text_of_joined style (Text.joined_of_encodable hencodable)
  have hdistinct : [Text.of "commitment_hash", "commitment_decimal"].Nodup := by decide
  exact Json.readsBack_object hstyle
    (.cons ⟨rfl, rfl, htext _⟩ (.cons ⟨rfl, rfl, htext _⟩ .nil)) hdistinct

/-- The report on a commitment can be written in bytes. -/
theorem encodable_write (style : Json.Style) :
    Text.Encodable (Json.write style (ofDigest digest).toValue) := by
  have hword : ∀ s : String, Text.Encodable (Text.of s) := fun _ => .ofChars _
  have hstring : ∀ s : String, Text.Encodable (Json.writeString style.escaped (Text.of s)) :=
    fun s => Json.encodable_writeString _ (hword s)
  rw [Json.write]
  simp only [ofDigest, toValue, Json.writeValue, Json.writeFields, Text.encodable_append_iff,
    hword, style.encodable_lineBreak, hstring, and_self]
  decide

end CommitmentReport

/-! ## Payloads -/

namespace Payload

/-- An object holds the parts of a deposit in its fields. -/
structure CarriesDeposit (fields : Fields) (recipient : Text) (amount nonce timestamp : Int) :
    Prop where
  recipient : Value.field? fields "recipient" = some (.text recipient)
  amount : Value.field? fields "amount" = some (.int amount)
  nonce : Value.field? fields "nonce" = some (.int nonce)
  timestamp : Value.field? fields "timestamp" = some (.int timestamp)

/-- An integer is read as a natural exactly if it is one. -/
theorem natural_int_eq_ok_iff {place : List Place} {n : Int} {k : Nat} :
    natural place (.int n) = .ok k ↔ n = k := by
  have hread : natural place (.int n) =
      if n < 0 then Checked.issue place .negative (.int n) else .ok n.toNat := rfl
  rw [hread]
  split
  · simp only [Checked.issue, reduceCtorEq, false_iff]
    omega
  · simp only [Except.ok.injEq]
    omega

/-- A deposit is read part by part. -/
theorem Deposit.read_eq_ok_iff {fields : Fields} {d : Deposit} : Deposit.read fields = .ok d ↔
    required fields "recipient" text = .ok d.recipient ∧
      required fields "amount" natural = .ok d.amount ∧
      required fields "nonce" natural = .ok d.nonce ∧
      required fields "timestamp" natural = .ok d.timestamp := by
  obtain ⟨recipient, amount, nonce, timestamp⟩ := d
  rw [Deposit.read, bind_eq_ok_iff]
  constructor
  · rintro ⟨⟨recipient', amount', nonce', timestamp'⟩, hparts, hd⟩
    cases hd
    simpa only [Checked.both_eq_ok_iff] using hparts
  · intro hparts
    refine ⟨(recipient, amount, nonce, timestamp), ?_, rfl⟩
    simpa only [Checked.both_eq_ok_iff] using hparts

/-- From the fields of a deposit its parts are read, unless an integer is below zero. -/
theorem CarriesDeposit.read_eq_ok_iff {fields : Fields} {recipient : Text}
    {amount nonce timestamp : Int} (h : CarriesDeposit fields recipient amount nonce timestamp)
    {d : Deposit} : Deposit.read fields = .ok d ↔
      recipient = d.recipient ∧ amount = d.amount ∧ nonce = d.nonce ∧ timestamp = d.timestamp := by
  rw [Deposit.read_eq_ok_iff, required, required, required, required, h.recipient, h.amount,
    h.nonce, h.timestamp]
  dsimp only
  rw [natural_int_eq_ok_iff, natural_int_eq_ok_iff, natural_int_eq_ok_iff, text, Except.ok.injEq]

end Payload

/-! ## Answers -/

namespace App

variable {fields : Payload.Fields} {recipient : Text} {amount nonce timestamp : Int}

/-- What comes of the fields of a body at the route for commitments. -/
def commitmentIn (fields : Payload.Fields) : Except ServiceError CommitmentReport := do
  let d ← (Payload.Deposit.read fields).mapError .ofIssues
  Service.commitment (.text d.recipient) (.int d.amount) (.int d.nonce) (.int d.timestamp)

theorem serve_commitment (options : Options) (fields : Payload.Fields) :
    serve options .commitment (some (.object fields)) =
      respond CommitmentReport.toValue (commitmentIn fields) := rfl

theorem failsWith_commitmentIn (fields : Payload.Fields) :
    FailsWith ServiceError.BlamesInput (commitmentIn fields) :=
  (FailsWith.mapError Service.blamesInput_ofIssues).bind fun _ =>
    Service.failsWith_commitment _ _ _ _

/-- The application reports on the commitment that there is without it. -/
theorem commitmentIn_eq_ok_iff
    (h : Payload.CarriesDeposit fields recipient amount nonce timestamp)
    {report : CommitmentReport} : commitmentIn fields = .ok report ↔
      ∃ digest, Deposit.commitmentOf recipient amount nonce timestamp = .ok digest ∧
        CommitmentReport.ofDigest digest = report := by
  rw [commitmentIn, bind_eq_ok_iff]
  constructor
  · rintro ⟨d, hread, hcommitment⟩
    obtain ⟨rfl, rfl, rfl, rfl⟩ := h.read_eq_ok_iff.mp (mapError_eq_ok hread)
    rw [Service.commitment_eq] at hcommitment
    exact map_eq_ok hcommitment
  · rintro ⟨digest, hdigest, rfl⟩
    have hfits := Deposit.exists_commitmentOf.mp ⟨digest, hdigest⟩
    obtain ⟨a, rfl⟩ := Int.eq_ofNat_of_zero_le hfits.amount.1
    obtain ⟨n, rfl⟩ := Int.eq_ofNat_of_zero_le hfits.nonce.1
    obtain ⟨t, rfl⟩ := Int.eq_ofNat_of_zero_le hfits.timestamp.1
    have hread : Payload.Deposit.read fields = .ok ⟨recipient, a, n, t⟩ :=
      h.read_eq_ok_iff.mpr ⟨rfl, rfl, rfl, rfl⟩
    refine ⟨⟨recipient, a, n, t⟩, ?_, ?_⟩
    · rw [hread]
      rfl
    · rw [Service.commitment_eq, hdigest]
      rfl

/-- A body with the parts of a deposit is answered with the report on its commitment, or with what
is wrong with it. -/
theorem serve_commitment_cases (options : Options)
    (h : Payload.CarriesDeposit fields recipient amount nonce timestamp) :
    (∃ digest, Deposit.commitmentOf recipient amount nonce timestamp = .ok digest ∧
      serve options .commitment (some (.object fields)) =
        ⟨200, (CommitmentReport.ofDigest digest).toValue⟩) ∨
    (∃ e, Deposit.commitmentOf recipient amount nonce timestamp = .error e) ∧
      (serve options .commitment (some (.object fields))).BlamesMessage := by
  rw [serve_commitment]
  cases hin : commitmentIn fields with
  | ok report =>
      obtain ⟨digest, hdigest, rfl⟩ := (commitmentIn_eq_ok_iff h).mp hin
      exact .inl ⟨digest, hdigest, rfl⟩
  | error e =>
      cases hof : Deposit.commitmentOf recipient amount nonce timestamp with
      | ok digest =>
          rw [(commitmentIn_eq_ok_iff h).mpr ⟨digest, hof, rfl⟩] at hin
          cases hin
      | error e' =>
          exact .inr ⟨⟨e', rfl⟩, blamesMessage_serviceFailure (failsWith_commitmentIn fields e hin)⟩

/-- An answer that blames the message does so as it is sent. -/
theorem blamesMessage_encoded {response : Http.Response} (h : response.BlamesMessage) :
    (encoded response).BlamesMessage := by
  unfold encoded
  split
  · exact blamesMessage_unencodable _
  · exact h

/-- The same answer comes to a message with such a body, if there is a service or settings for
one. -/
theorem handle_commitment_cases {app : App} {env : Environment} {settings : Settings}
    (hsettings : Settings.read env = .ok settings) {body : List UInt8}
    (hbody : readBody body = .ok (some (.object fields)))
    (h : Payload.CarriesDeposit fields recipient amount nonce timestamp) :
    (∃ digest, Deposit.commitmentOf recipient amount nonce timestamp = .ok digest ∧
      (app.handle env ⟨"POST", Route.commitment.path, body⟩).1 =
        ⟨200, (CommitmentReport.ofDigest digest).toValue⟩) ∨
    (∃ e, Deposit.commitmentOf recipient amount nonce timestamp = .error e) ∧
      (app.handle env ⟨"POST", Route.commitment.path, body⟩).1.BlamesMessage := by
  obtain ⟨options, hservice⟩ : ∃ options, app.ensureService env = .ok options := by
    unfold ensureService
    split
    · exact ⟨_, rfl⟩
    · rw [hsettings]
      exact ⟨_, rfl⟩
  have hroute : Route.commitment ∈ serviceRoutes := by simp [serviceRoutes]
  have hfind : Route.find? Route.commitment.path = some .commitment := by decide
  have hhandle : (app.handle env ⟨"POST", Route.commitment.path, body⟩).1 =
      encoded (serve options .commitment (some (.object fields))) := by
    rw [handle_of_post app env rfl hroute hfind, handleBody, hbody]
    dsimp only
    rw [hservice]
  rw [hhandle]
  rcases serve_commitment_cases options h with ⟨digest, hdigest, hserve⟩ | ⟨herror, hblames⟩
  · refine .inl ⟨digest, hdigest, ?_⟩
    rw [hserve, encoded, Http.Response.text,
      Text.encodeError?_of_encodable (CommitmentReport.encodable_write digest .compact)]
  · exact .inr ⟨herror, blamesMessage_encoded hblames⟩

end App

end MountainRange
