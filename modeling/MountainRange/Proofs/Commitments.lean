import MountainRange.Proofs.Deposits
import MountainRange.Proofs.Invocations
set_option autoImplicit false

/-!
# Commitments on the command line and over the network

The parts of a deposit can be given to a command, sent to the application, or handed to the
functions behind both.  All three have checks of their own, and still they take the same parts
and come to the same commitment.
-/

namespace MountainRange

namespace Command

open Text.Numeral (maxDigits)

/-! ## The arguments of `commitment` -/

/-- Integers as arguments. -/
def decimalArguments (numbers : List Int) : List Text :=
  numbers.map fun n => Text.of (toString n)

/-- The arguments that ask for the commitment of a deposit. -/
def commitmentArguments (recipient : Text) (amount nonce timestamp : Int) : List Text :=
  Text.of Name.commitment.label :: recipient :: decimalArguments [amount, nonce, timestamp]

/-- A minus in front of what is neither a dash nor an equals sign starts an option, and
`commitment` knows none of a single letter. -/
theorem Argument.read_minus {c : Letter} (hdash : c ≠ .char '-') (hequals : c ≠ .char '=')
    (rest : Text) : read Name.commitment.flags (.char '-' :: c :: rest) =
      .error (.unknownFlag ['-', c] []) := by
  have hsplit : ∃ name value?, splitValue (.char '-' :: c :: rest) =
      (.char '-' :: c :: name, value?) := by
    refine ⟨(splitValue rest).1, (splitValue rest).2, ?_⟩
    simp [splitValue, hequals]
  obtain ⟨name, value?, hsplit⟩ := hsplit
  have hname : Flag.ofName? Name.commitment.flags (.char '-' :: c :: name) = none := by
    simp [Flag.ofName?, Name.flags, Flag.name, Text.of, Text.ofChars, hdash]
  have hletter : letters Name.commitment.flags (c :: rest) = .error (.unknownFlag ['-', c] []) := by
    cases c <;> simp [letters, Flag.ofLetter?, Name.flags, Flag.letter?, Letter.char?]
  unfold read
  split
  · next heq =>
      cases heq
      exact absurd rfl hdash
  · next heq =>
      cases heq
      rw [hsplit]
      dsimp only
      rw [hname, if_neg hdash, hletter]
      rfl
  · next heq => exact absurd rfl (heq c rest)

/-- An argument below zero is taken for an option that there is not. -/
theorem Argument.read_negative {n : Int} (hn : n < 0) : ∃ name,
    read Name.commitment.flags (Text.of (toString n)) = .error (.unknownFlag name []) := by
  rw [FieldText.toString_negative hn]
  have hnonempty : Nat.toDigits 10 n.natAbs ≠ [] := Nat.toDigits_ne_nil
  obtain ⟨c, cs, hcs⟩ := List.exists_cons_of_ne_nil hnonempty
  have hdigit : c.isDigit = true := by
    apply Text.Numeral.isDigit_of_mem_toDigits (n := n.natAbs)
    simp [hcs]
  rw [hcs]
  refine ⟨_, Argument.read_minus ?_ ?_ (Text.ofChars cs)⟩
  all_goals
    rintro ⟨⟩
    cases hdigit

/-- Integers are no options exactly if none is below zero. -/
theorem Arguments.read_decimalArguments (numbers : List Int) :
    ((∀ n ∈ numbers, 0 ≤ n) ∧ read Name.commitment.flags true (decimalArguments numbers) =
      .ok ⟨[], decimalArguments numbers⟩) ∨
    (¬∀ n ∈ numbers, 0 ≤ n) ∧ ∃ name,
      read Name.commitment.flags true (decimalArguments numbers) =
        .error (.unknownFlag name []) := by
  induction numbers with
  | nil => exact .inl ⟨by simp, rfl⟩
  | cons n numbers ih =>
      rcases Int.lt_or_le n 0 with hneg | hnat
      · obtain ⟨name, hname⟩ := Argument.read_negative hneg
        refine .inr ⟨?_, name, ?_⟩
        · intro hall
          have := hall n List.mem_cons_self
          omega
        · rw [decimalArguments, List.map_cons, read.eq_def]
          dsimp only
          rw [hname]
      · obtain ⟨k, rfl⟩ := Int.eq_ofNat_of_zero_le hnat
        have hread : read Name.commitment.flags true (decimalArguments (k :: numbers)) =
            (read Name.commitment.flags true (decimalArguments numbers)).map
              (addOther (printed k)) := read_cons_word (isWord_printed k)
        rcases ih with ⟨hall, hih⟩ | ⟨hnot, name, hih⟩
        · refine .inl ⟨List.forall_mem_cons.mpr ⟨hnat, hall⟩, ?_⟩
          rw [hread, hih]
          rfl
        · refine .inr ⟨fun hall => hnot (List.forall_mem_cons.mp hall).2, name, ?_⟩
          rw [hread, hih]
          rfl

/-- A natural has no more digits than are read. -/
def IsShort (n : Nat) : Prop := n < Nat.pow 10 maxDigits

theorem takeInteger_of_isShort {argument : Positional} {n : Nat} (h : IsShort n)
    (rest : List Text) : takeInteger argument (printed n :: rest) = .ok (n, rest) := by
  have hbound : n < Nat.pow 10 maxDigits := h
  have hread := FieldText.readInt_toString n
  rw [if_pos hbound, ← printed] at hread
  simp only [takeInteger, takeText, bind, Except.bind, hread]
  rfl

theorem takeInteger_of_not_isShort {argument : Positional} {n : Nat} (h : ¬IsShort n)
    (rest : List Text) :
    takeInteger argument (printed n :: rest) = .error (.badInteger argument (printed n)) := by
  have hbound : ¬n < Nat.pow 10 maxDigits := h
  have hread := FieldText.readInt_toString n
  rw [if_neg hbound, ← printed] at hread
  simp only [takeInteger, takeText, bind, Except.bind, hread]
  rfl

section Invoke

variable {files : Files} {recipient : Text} {a n t : Nat}

/-- Naturals that are short are the integers of `commitment`. -/
theorem Name.invoke_commitment_of_isShort (ha : IsShort a) (hn : IsShort n) (ht : IsShort t) :
    Name.commitment.invoke files ⟨[], [recipient, printed a, printed n, printed t]⟩ =
      .ok (.commitment recipient a n t) := by
  simp only [Name.invoke, takeText, takeInteger_of_isShort ha, takeInteger_of_isShort hn,
    takeInteger_of_isShort ht, bind, Except.bind]
  rfl

/-- The first of them that is not short is refused. -/
theorem Name.invoke_commitment_of_not (h : ¬(IsShort a ∧ IsShort n ∧ IsShort t)) :
    ∃ argument got,
      Name.commitment.invoke files ⟨[], [recipient, printed a, printed n, printed t]⟩ =
        .error (.badInteger argument got) := by
  simp only [Name.invoke, takeText, bind, Except.bind]
  by_cases ha : IsShort a
  · by_cases hn : IsShort n
    · have ht : ¬IsShort t := fun ht => h ⟨ha, hn, ht⟩
      refine ⟨.timestamp, printed t, ?_⟩
      simp only [takeInteger_of_isShort ha, takeInteger_of_isShort hn,
        takeInteger_of_not_isShort ht]
    · refine ⟨.nonce, printed n, ?_⟩
      simp only [takeInteger_of_isShort ha, takeInteger_of_not_isShort hn]
  · refine ⟨.amount, printed a, ?_⟩
    simp only [takeInteger_of_not_isShort ha]

end Invoke

/-! ## Runs of `commitment` -/

section Runs

variable {recipient : Text} {amount nonce timestamp : Int}

/-- The integers of a deposit can be told by arguments. -/
theorem isShort_of_lt {n : Nat} (h : n < 2 ^ 128) : IsShort n :=
  Nat.lt_trans h (by decide +kernel)

/-- Words alone are handed to the command as they are. -/
theorem Invocation.readNamed_words (files : Files) {name : Name} {args others : List Text}
    (h : Arguments.read name.flags true args = .ok ⟨[], others⟩) :
    readNamed files name args = name.invoke files ⟨[], others⟩ := by
  have hhelp : Arguments.has ⟨[], others⟩ .help = false := rfl
  simp only [readNamed, h, bind, Except.bind, hhelp, Bool.false_eq_true, if_false]

/-- The parts of a deposit make a call of `commitment`.  Parts that make none are those of no
deposit, and the call is refused. -/
theorem Invocation.read_commitment (files : Files) (hword : IsWord recipient)
    (amount nonce timestamp : Int) :
    Invocation.read files (commitmentArguments recipient amount nonce timestamp) =
        .ok (.commitment recipient amount nonce timestamp) ∨
      ¬Deposit.Fits recipient amount nonce timestamp ∧ ∃ e,
        Invocation.read files (commitmentArguments recipient amount nonce timestamp) = .error e ∧
          (Ending.ofUsageError e).status = 2 := by
  rw [commitmentArguments, read_label]
  rcases Arguments.read_decimalArguments [amount, nonce, timestamp] with
    ⟨hall, hread⟩ | ⟨hnot, name, hread⟩
  · have hargs : Arguments.read Name.commitment.flags true
        (recipient :: decimalArguments [amount, nonce, timestamp]) =
          .ok ⟨[], recipient :: decimalArguments [amount, nonce, timestamp]⟩ := by
      rw [Arguments.read_cons_word hword, hread]
      rfl
    rw [readNamed_words files hargs]
    obtain ⟨a, rfl⟩ := Int.eq_ofNat_of_zero_le (hall amount (by simp))
    obtain ⟨n, rfl⟩ := Int.eq_ofNat_of_zero_le (hall nonce (by simp))
    obtain ⟨t, rfl⟩ := Int.eq_ofNat_of_zero_le (hall timestamp (by simp))
    by_cases hshort : IsShort a ∧ IsShort n ∧ IsShort t
    · obtain ⟨ha, hn, ht⟩ := hshort
      exact .inl (Name.invoke_commitment_of_isShort ha hn ht)
    · refine .inr ⟨?_, ?_⟩
      · intro hfits
        have ha := hfits.amount.2
        have hn := hfits.nonce.2
        have ht := hfits.timestamp.2
        exact hshort ⟨isShort_of_lt (by omega), isShort_of_lt (by omega), isShort_of_lt (by omega)⟩
      · obtain ⟨argument, got, hinvoke⟩ := Name.invoke_commitment_of_not hshort
        exact ⟨_, hinvoke, rfl⟩
  · have hargs : readNamed files .commitment
        (recipient :: decimalArguments [amount, nonce, timestamp]) =
          .error (.unknownFlag name []) := by
      rw [readNamed, Arguments.read_cons_word hword, hread]
      rfl
    refine .inr ⟨?_, _, hargs, rfl⟩
    intro hfits
    apply hnot
    simpa using ⟨hfits.amount.1, hfits.nonce.1, hfits.timestamp.1⟩

variable {σ : Type} {env : Environment} {settings : Settings} (transport : Http.Transport σ)
  (files : Files) (s : σ)

/-- What the command reports on is the commitment that there is without it. -/
theorem commitmentReport_eq (hsettings : Settings.read env = .ok settings) (recipient : Text)
    (amount nonce timestamp : Int) : commitmentReport env recipient amount nonce timestamp =
      ((Deposit.commitmentOf recipient amount nonce timestamp).map
        CommitmentReport.ofDigest).mapError fun e => .told (.deposit e) := by
  rw [commitmentReport, hsettings, Service.commitment_eq]
  rfl

/-- The command prints the report on the commitment of a deposit and ends with zero, or it ends
with two. -/
theorem run_commitment_cases (hsettings : Settings.read env = .ok settings)
    (hword : IsWord recipient) :
    (∃ digest, Deposit.commitmentOf recipient amount nonce timestamp = .ok digest ∧
      (run env transport files (commitmentArguments recipient amount nonce timestamp) s).1 =
        ⟨Printed.json (CommitmentReport.ofDigest digest).toValue, .done 0, files⟩) ∨
    (∃ e, Deposit.commitmentOf recipient amount nonce timestamp = .error e) ∧
      (run env transport files (commitmentArguments recipient amount nonce timestamp) s).1.status =
        2 := by
  have hreport := commitmentReport_eq hsettings recipient amount nonce timestamp
  rcases Invocation.read_commitment files hword amount nonce timestamp with
    hread | ⟨hnot, e, hread, hstatus⟩
  · rw [run, hread]
    dsimp only [Invocation.run]
    cases hdigest : Deposit.commitmentOf recipient amount nonce timestamp with
    | ok digest =>
        rw [hdigest] at hreport
        have hencodable : Text.Encodable
            (Printed.json (CommitmentReport.ofDigest digest).toValue) :=
          (CommitmentReport.encodable_write digest .indented).append (.ofChars _)
        refine .inl ⟨digest, rfl, ?_⟩
        rw [hreport]
        dsimp only [Except.map, Except.mapError]
        rw [Run.encoded, Text.encodeError?_of_encodable hencodable]
    | error e =>
        rw [hdigest] at hreport
        refine .inr ⟨⟨e, rfl⟩, ?_⟩
        rw [hreport]
        rfl
  · refine .inr ⟨?_, ?_⟩
    · cases hdigest : Deposit.commitmentOf recipient amount nonce timestamp with
      | ok digest => exact absurd (Deposit.exists_commitmentOf.mp ⟨digest, hdigest⟩) hnot
      | error e => exact ⟨e, rfl⟩
    · rw [run, hread]
      exact hstatus

end Runs

/-- What is printed of a report reads back. -/
theorem read_printed_commitment (digest : CompactDigest) :
    Json.read (Printed.json (CommitmentReport.ofDigest digest).toValue) =
      .ok (CommitmentReport.ofDigest digest).toValue := by
  have hback := CommitmentReport.readsBack_toValue digest Json.Style.isStandard_indented
  exact Json.read_append hback (by simp [Json.AllSpace, Json.isSpace, Text.of, Text.ofChars])

end Command

namespace Deposit

/-! ## Ways to a commitment -/

/-- The body with which a client asks for the commitment of a deposit. -/
def body (recipient : Text) (amount nonce timestamp : Int) : Value :=
  .object [("recipient", .text recipient), ("amount", .int amount), ("nonce", .int nonce),
    ("timestamp", .int timestamp)]

/-- The body arrives with the parts of the deposit, if they can be written. -/
theorem readBody_body {recipient : Text} {amount nonce timestamp : Int}
    (hrecipient : recipient.joined = recipient)
    (hshort : ∀ n ∈ [amount, nonce, timestamp], n.natAbs < Nat.pow 10 Text.Numeral.maxDigits) :
    ∃ fields, Payload.CarriesDeposit fields recipient amount nonce timestamp ∧
      App.readBody (Json.write .line (body recipient amount nonce timestamp)).toBytes =
        .ok (some (.object fields)) := by
  have htext : Json.ReadsBack .line (.text recipient) (.text recipient) :=
    Json.readsBack_text_of_joined .line hrecipient
  have hint : ∀ n ∈ [amount, nonce, timestamp], Json.ReadsBack .line (.int n) (.int n) :=
    fun n hn => Json.readsBack_int .line (hshort n hn)
  have hdistinct : [Text.of "recipient", "amount", "nonce", "timestamp"].Nodup := by decide
  have hback : Json.ReadsBack .line (body recipient amount nonce timestamp)
      (body recipient amount nonce timestamp) :=
    Json.readsBack_object Json.Style.isStandard_line
      (.cons ⟨rfl, rfl, htext⟩ (.cons ⟨rfl, rfl, hint amount (by simp)⟩
        (.cons ⟨rfl, rfl, hint nonce (by simp)⟩ (.cons ⟨rfl, rfl, hint timestamp (by simp)⟩
          .nil)))) hdistinct
  exact ⟨_, ⟨rfl, rfl, rfl, rfl⟩, App.readBody_write hback⟩

/-- The library, the command line and the application agree on commitments.  Parts in their ranges
all three take, and both reports tell the digest that the library computes.  Parts that are not all
in their ranges all three refuse: the command with status 2, the application with 400 or 422. -/
theorem commitments_agree {σ : Type} (transport : Http.Transport σ) (files : Files) (s : σ)
    (app : App) {env : Environment} {settings : Settings}
    (hsettings : Settings.read env = .ok settings) {recipient : Text}
    (hword : Command.IsWord recipient) {amount nonce timestamp : Int} {body : List UInt8}
    {fields : Payload.Fields} (hbody : App.readBody body = .ok (some (.object fields)))
    (hfields : Payload.CarriesDeposit fields recipient amount nonce timestamp) :
    let library := commitmentOf recipient amount nonce timestamp
    let command := (Command.run env transport files
      (Command.commitmentArguments recipient amount nonce timestamp) s).1
    let answer := (app.handle env ⟨"POST", App.Route.commitment.path, body⟩).1
    (Fits recipient amount nonce timestamp ∧ ∃ digest report,
      library = .ok digest ∧ Value.TellsCommitment report digest ∧
      (command.status = 0 ∧ Json.read command.output = .ok report) ∧
      answer.status = 200 ∧ Json.read answer.text = .ok report) ∨
    (¬Fits recipient amount nonce timestamp ∧ (∃ e, library = .error e) ∧
      command.status = 2 ∧ (answer.status = 400 ∨ answer.status = 422)) := by
  intro library command answer
  have hanswer : (∃ digest, library = .ok digest ∧
      answer = ⟨200, (CommitmentReport.ofDigest digest).toValue⟩) ∨
        (∃ e, library = .error e) ∧ answer.BlamesMessage :=
    App.handle_commitment_cases hsettings hbody hfields
  have hfits : (∃ digest, library = .ok digest) ↔ Fits recipient amount nonce timestamp :=
    exists_commitmentOf
  rcases Command.run_commitment_cases transport files s hsettings hword with
    ⟨digest, hdigest, hrun⟩ | ⟨⟨e, herror⟩, hstatus⟩
  · change library = .ok digest at hdigest
    have hback := CommitmentReport.readsBack_toValue digest Json.Style.isStandard_compact
    have hreport : answer = ⟨200, (CommitmentReport.ofDigest digest).toValue⟩ := by
      simpa [hdigest] using hanswer
    refine .inl ⟨hfits.mp ⟨digest, hdigest⟩, digest, _, hdigest,
      CommitmentReport.tellsCommitment digest, ⟨?_, ?_⟩, ?_, ?_⟩
    · simp only [command, hrun]
      rfl
    · simp only [command, hrun]
      exact Command.read_printed_commitment digest
    · rw [hreport]
    · rw [hreport]
      exact Json.read_write hback
  · change library = .error e at herror
    have hblames : answer.BlamesMessage := by simpa [herror] using hanswer
    refine .inr ⟨?_, ⟨e, herror⟩, hstatus, hblames.status⟩
    rw [← hfits]
    rintro ⟨digest, hdigest⟩
    rw [herror] at hdigest
    cases hdigest

/-- A deposit of one cent has a commitment everywhere. -/
theorem commitments_agree_one_cent :
    let env : Environment := fun _ => none
    let bytes := (Json.write .line (body "0x2a" 1 7 1700000000)).toBytes
    let command := (Command.run env (App.transport env) .empty
      (Command.commitmentArguments "0x2a" 1 7 1700000000) .initial).1
    let answer := (App.initial.handle env ⟨"POST", App.Route.commitment.path, bytes⟩).1
    (∃ settings, Settings.read env = .ok settings) ∧ Command.IsWord "0x2a" ∧
      (∃ fields, App.readBody bytes = .ok (some (.object fields)) ∧
        Payload.CarriesDeposit fields "0x2a" 1 7 1700000000) ∧
      Fits "0x2a" 1 7 1700000000 ∧
      ∃ digest report, commitmentOf "0x2a" 1 7 1700000000 = .ok digest ∧
        Value.TellsCommitment report digest ∧
        (command.status = 0 ∧ Json.read command.output = .ok report) ∧
        answer.status = 200 ∧ Json.read answer.text = .ok report := by
  -- With the names kept, the two sides would be compared by running them.
  dsimp only
  obtain ⟨settings, hsettings⟩ : ∃ settings, Settings.read (fun _ => none) = .ok settings :=
    ⟨_, rfl⟩
  have hword : Command.IsWord "0x2a" := by decide
  have hjoined : Text.joined "0x2a" = "0x2a" := by decide
  have hrecipient : FieldText.parse (.text "0x2a") = .ok 42 := rfl
  have hfits : Fits "0x2a" 1 7 1700000000 :=
    ⟨⟨42, hrecipient, by decide⟩, by decide, by decide, by decide⟩
  obtain ⟨fields, hfields, hbody⟩ :=
    @readBody_body "0x2a" 1 7 1700000000 hjoined (by decide +kernel)
  refine ⟨⟨settings, hsettings⟩, hword, ⟨fields, hbody, hfields⟩, hfits, ?_⟩
  have hagree := commitments_agree (App.transport fun _ => none) .empty .initial .initial hsettings
    hword hbody hfields
  dsimp only at hagree
  rcases hagree with ⟨-, htaken⟩ | ⟨hnot, -⟩
  · exact htaken
  · exact absurd hfits hnot

end Deposit

end MountainRange
