import MountainRange.Command.Invocation
set_option autoImplicit false

/-!
# Command lines that ask for a verdict

What the arguments of `decode` and `verify` come to.  An argument that does not start with
a dash is no option, wherever it stands; the option for legacy proofs may be given at any
place and more than once.
-/

namespace MountainRange

namespace Entries

/-- A name that is given repeatedly with the same value stands there once. -/
theorem ofList_replicate {α β : Type} [DecidableEq α] (k : α) (x : β) (n : Nat) :
    ofList (List.replicate (n + 1) (k, x)) = [(k, x)] := by
  have hput : put [(k, x)] k x = [(k, x)] := by rw [put, if_pos rfl]
  have hfold : ∀ n, (List.replicate n (k, x)).foldl (fun entries e => put entries e.1 e.2)
      [(k, x)] = [(k, x)] := by
    intro n
    induction n with
    | zero => rfl
    | succ n ih => rw [List.replicate_succ, List.foldl_cons, hput, ih]
  exact hfold n

end Entries

namespace Command

/-! ## Single arguments -/

/-- An argument that does not start with a dash. -/
def IsWord (arg : Text) : Prop := arg.head? ≠ some '-'

instance (arg : Text) : Decidable (IsWord arg) := inferInstanceAs (Decidable (_ ≠ _))

theorem Argument.read_of_isWord {flags : List Flag} {arg : Text} (h : IsWord arg) :
    read flags arg = .ok .plain := by
  unfold read
  split
  · exact absurd rfl h
  · exact absurd rfl h
  · rfl

namespace Arguments

variable {flags : List Flag} {mixed : Bool} {arg : Text} {rest : List Text}

theorem read_cons_word (h : IsWord arg) :
    read flags true (arg :: rest) = (read flags true rest).map (addOther arg) := by
  rw [read.eq_def]
  dsimp only
  rw [Argument.read_of_isWord h]
  rfl

/-- The first word ends the options where these may not stand behind it. -/
theorem read_cons_word_unmixed (h : IsWord arg) :
    read flags false (arg :: rest) = .ok ⟨[], arg :: rest⟩ := by
  rw [read.eq_def]
  dsimp only
  rw [Argument.read_of_isWord h]
  rfl

theorem read_cons_given {flag : Flag} (h : Argument.read flags arg = .ok (.given [flag])) :
    read flags mixed (arg :: rest) = (read flags mixed rest).map (addFlag flag []) := by
  rw [read.eq_def]
  dsimp only
  rw [h]
  rfl

end Arguments

/-! ## Names of commands -/

theorem Name.isWord_label (name : Name) : IsWord name.label := by
  cases name <;> decide

theorem Invocation.read_label (files : Files) (name : Name) (args : List Text) :
    Invocation.read files (Text.of name.label :: args) = readNamed files name args := by
  unfold Invocation.read
  rw [Arguments.read_cons_word_unmixed name.isWord_label]
  cases name <;> rfl

/-! ## The arguments of `decode` -/

/-- The option for legacy proofs as an argument. -/
def legacyArgument : Text := Flag.legacyAnywhere.name

/-- The fields among the arguments of `decode`. -/
def fieldsOf (args : List Text) : List Text := args.filter (· ≠ legacyArgument)

variable {args : List Text}

theorem Arguments.read_fields (h : ∀ arg ∈ args, arg = legacyArgument ∨ IsWord arg) :
    read Name.decode.flags true args =
      .ok ⟨List.replicate (args.count legacyArgument) (.legacyAnywhere, []), fieldsOf args⟩ := by
  induction args with
  | nil => rfl
  | cons arg args ih =>
      obtain ⟨harg, hargs⟩ := List.forall_mem_cons.mp h
      by_cases hlegacy : arg = legacyArgument
      · subst hlegacy
        have hgiven : Argument.read Name.decode.flags legacyArgument =
            .ok (.given [.legacyAnywhere]) := rfl
        have hfields : fieldsOf (legacyArgument :: args) = fieldsOf args :=
          List.filter_cons_of_neg (by decide)
        rw [read_cons_given hgiven, ih hargs, List.count_cons_self, List.replicate_succ, hfields]
        rfl
      · have hword := harg.resolve_left hlegacy
        have hfields : fieldsOf (arg :: args) = arg :: fieldsOf args :=
          List.filter_cons_of_pos (by simp [hlegacy])
        rw [read_cons_word hword, ih hargs, List.count_cons_of_ne hlegacy, hfields]
        rfl

/-- However often the option for legacy proofs is given, it is set or not. -/
theorem Name.invoke_decode (files : Files) (n : Nat) {fields : List Text} (h : fields ≠ []) :
    Name.decode.invoke files ⟨List.replicate n (.legacyAnywhere, []), fields⟩ =
      .ok (.decode fields { legacyAnywhere := decide (0 < n) }) := by
  obtain ⟨first, rest, rfl⟩ := List.exists_cons_of_ne_nil h
  cases n with
  | zero => rfl
  | succ n =>
      rw [Name.invoke, Arguments.settled]
      dsimp only
      rw [Entries.ofList_replicate]
      rfl

/-- Words and options for legacy proofs, in any order, make a call of `decode`. -/
theorem Invocation.read_decode (files : Files)
    (h : ∀ arg ∈ args, arg = legacyArgument ∨ IsWord arg) (hfields : fieldsOf args ≠ []) :
    Invocation.read files (Text.of Name.decode.label :: args) =
      .ok (.decode (fieldsOf args) { legacyAnywhere := decide (legacyArgument ∈ args) }) := by
  have hhelp : Arguments.has ⟨List.replicate (args.count legacyArgument) (.legacyAnywhere, []),
      fieldsOf args⟩ .help = false := by
    rw [Arguments.has, List.any_eq_false]
    intro given hgiven
    rw [(List.mem_replicate.mp hgiven).2]
    decide
  rw [read_label, readNamed, Arguments.read_fields h]
  show (if Arguments.has _ .help = true then _ else _) = _
  rw [hhelp, if_neg Bool.false_ne_true, Name.invoke_decode files _ hfields]
  simp only [List.count_pos_iff]

/-! ## The arguments of `verify` -/

/-- A path and the options of the local verifier. -/
def verifyArguments (path : Text) (legacyAnywhere : Bool) (parity : Option Convention) :
    List Text :=
  path :: (if legacyAnywhere then [legacyArgument] else []) ++
    parity.toList.flatMap fun c => [Text.of Flag.parity.name, Text.of c.label]

/-- The options of the local verifier behind the path of a file make a call of `verify`. -/
theorem Invocation.read_verify {files : Files} {path : Text} {content : Content}
    (hpath : IsWord path) (hfile : lookUp files path = .ok (some (.file content)))
    (legacyAnywhere : Bool) (parity : Option Convention) :
    Invocation.read files (Text.of Name.verify.label ::
        verifyArguments path legacyAnywhere parity) =
      .ok (.verify ⟨path, content⟩ { legacyAnywhere, parity }) := by
  have hflags : ∃ flags, Arguments.read Name.verify.flags true
        (verifyArguments path legacyAnywhere parity) = .ok ⟨flags, [path]⟩ ∧
      Arguments.has ⟨flags, [path]⟩ .help = false ∧
      (Arguments.settled ⟨flags, [path]⟩).foldlM VerifyFlags.set {} =
        .ok { legacyAnywhere, parity } := by
    rw [verifyArguments, List.cons_append, Arguments.read_cons_word hpath]
    cases legacyAnywhere <;> rcases parity with _ | (_ | _)
    all_goals exact ⟨_, rfl, rfl, rfl⟩
  obtain ⟨flags, hread, hhelp, hset⟩ := hflags
  have htake : takeFile files .jsonFile [path] = .ok (⟨path, content⟩, []) := by
    rw [takeFile, takeText]
    show (lookUp files path >>= _) = _
    rw [hfile]
    rfl
  rw [read_label, readNamed, hread]
  show (if Arguments.has _ .help = true then _ else _) = _
  rw [hhelp, if_neg Bool.false_ne_true, Name.invoke]
  show ((Arguments.settled ⟨flags, [path]⟩).foldlM VerifyFlags.set {} >>= _) = _
  rw [hset]
  show (takeFile files .jsonFile [path] >>= _) = _
  rw [htake]
  rfl

end Command

end MountainRange
