import MountainRange.Deposit
import MountainRange.Encoding
import MountainRange.Payload
import MountainRange.Verdict
set_option autoImplicit false

/-!
# The verification service

Between the messages that ask for something and the verifier: payloads become
requests, verdicts become reports.  A structured proof and an encoded request that
say the same get the same report.
-/

namespace MountainRange

/-- A verdict as it is reported. -/
structure Report where
  valid : Bool
  resultCode : Nat
  reason : Text
  mode : Mode
  deriving DecidableEq, Repr

namespace Report

/-- The report on a verdict. -/
def ofOutcome (mode : Mode) (o : Outcome) : Report := ⟨o.isValid, o.code, o.reason, mode⟩

/-- A report as a value. -/
def toValue (r : Report) : Value :=
  .object [("valid", .bool r.valid), ("result_code", .int r.resultCode),
    ("reason", .text r.reason), ("mode", .int r.mode.number)]

end Report

/-- A commitment as it is reported. -/
structure CommitmentReport where
  hash : String
  decimal : String
  deriving DecidableEq, Repr

namespace CommitmentReport

/-- The report on a commitment. -/
def ofDigest (d : CompactDigest) : CommitmentReport := ⟨d.hex, toString d.toNat⟩

/-- A report as a value. -/
def toValue (r : CommitmentReport) : Value :=
  .object [("commitment_hash", .text r.hash), ("commitment_decimal", .text r.decimal)]

end CommitmentReport

/-- Why the service gives no report. -/
inductive ServiceError where
  /-- A payload is no object. -/
  | notObject (kind : Kind)
  /-- The fields of a payload are not what they should be. -/
  | payload (issues : List Payload.Issue)
  /-- What is wrong with a payload cannot be told in bytes. -/
  | unencodable (error : Text.EncodeError)
  /-- A text spells no number or no digest. -/
  | field (error : FieldError)
  /-- The parts make no request. -/
  | request (error : RequestError)
  /-- The slots make no request. -/
  | slots (refusal : Encoding.Refusal)
  /-- The parts make no deposit. -/
  | deposit (error : DepositError)
  /-- The verifier came to no verdict. -/
  | verification (fault : Fault)
  deriving Repr

/-- The text of a count of issues. -/
def issueCount (n : Nat) : String :=
  s!"{n} validation error" ++ (if n = 1 then "" else "s")

/-- The first line of the text of a service error. -/
def ServiceError.message : ServiceError → Text
  | .notObject kind => s!"an object is required, got {kind.label}"
  | .payload issues => issueCount issues.length ++ " for VerifyRequest"
  | .unencodable error => error.message
  | .field error => error.message
  | .request error => error.message
  | .slots refusal => refusal.message
  | .deposit error => error.message
  | .verification fault => "Failed to verify proof: " ++ fault.message

/-- The error of a payload with issues. -/
def ServiceError.ofIssues (issues : List Payload.Issue) : ServiceError :=
  match Payload.ruleError? issues with
  | some error => .unencodable error
  | none => .payload issues

namespace Service

/-! ## Verdicts -/

/-- The report on a request. -/
def report (options : Options) (r : Request) (expected : Option Operand) :
    Except ServiceError Report :=
  match r.explain expected options with
  | .ok o => .ok (.ofOutcome r.mode o)
  | .error fault => .error (.verification fault)

/-- The claim of a structured proof under a scheme, whose digests are read before its
numbers are checked. -/
def buildInclusion {D : Type} (parse : Value → Except FieldError D) (p : Payload.Proof) :
    Except ServiceError (Inclusion D) := do
  let digest (t : Text) : Except ServiceError D := (parse (.text t)).mapError .field
  let root ← digest p.root
  let leaf ← digest p.leaf
  let siblings ← p.siblings.mapM digest
  let peaks ← p.peaks.mapM digest
  let leafIndex ← (word? leafIndexName (.int p.leafIndex)).mapError .request
  let size ← (word? sizeName (.int p.size)).mapError .request
  return { root, leaf, leafIndex, size, siblings, peaks }

/-- The request of a structured proof. -/
def buildRequest (p : Payload.Proof) : Except ServiceError Request :=
  match p.mode with
  | .wide => .wide <$> buildInclusion FieldText.parseWide p
  | .compact => .compact <$> buildInclusion FieldText.parseCompact p

/-- The digest that a text spells under a mode. -/
def parseDigest (m : Mode) (t : Text) : Except ServiceError Digest :=
  match m with
  | .wide => ((FieldText.parseWide (.text t)).mapError .field).map .wide
  | .compact => ((FieldText.parseCompact (.text t)).mapError .field).map .compact

/-- The leaf that a structured proof has to be for. -/
def expectedLeaf (p : Payload.Proof) : Except ServiceError (Option Operand) :=
  match p.expectedLeaf with
  | none => .ok none
  | some t => (parseDigest p.mode t).map fun d => some (.digest d)

/-- The report on a structured proof. -/
def verifyProof (options : Options) (p : Payload.Proof) : Except ServiceError Report := do
  let r ← buildRequest p
  let expected ← expectedLeaf p
  report options r expected

/-- The structured proof of an unchecked payload. -/
def readProof : Value → Except ServiceError Payload.Proof
  | .object fields => (Payload.Proof.read fields).mapError .ofIssues
  | v => .error (.notObject v.kind)

/-- The report on an unchecked payload. -/
def verify (options : Options) (payload : Value) : Except ServiceError Report := do
  verifyProof options (← readProof payload)

/-- The integers that slots are or spell. -/
def parseSlots (items : List Value) : Except ServiceError (List Int) :=
  (items.mapM FieldText.parse).mapError fun e => .slots (.malformed (.slotText e.message))

/-- The report on the slots of an encoded request. -/
def verifySlots (options : Options) (items : List Value) : Except ServiceError Report := do
  let slots ← parseSlots items
  let r ← (Encoding.decode (slots.map .int)).mapError .slots
  report options r none

/-- The report on an unchecked sequence of slots. -/
def verifyRaw (options : Options) (fields : Value) : Except ServiceError Report :=
  match fields.iterate? with
  | none => .error (.slots (.notSequence fields.kind))
  | some items => verifySlots options items

/-! ## Commitments -/

/-- The report on the commitment of a deposit. -/
def commitment (recipient amount nonce timestamp : Value) :
    Except ServiceError CommitmentReport := do
  let recipient ← (FieldText.parse recipient).mapError .field
  let d ← (Deposit.make? (.int recipient) amount nonce timestamp).mapError .deposit
  return .ofDigest d.commitment

end Service

end MountainRange
