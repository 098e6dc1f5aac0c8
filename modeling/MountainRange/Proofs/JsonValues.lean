import Mathlib.Data.List.Forall2
import MountainRange.Proofs.JsonNumbers
import MountainRange.Proofs.JsonStrings
set_option autoImplicit false

/-!
# Values that are written read back

Whatever style a value is written in, reading takes off the blanks that the style puts
between the parts and comes to the value again.  An array or object does so if its parts do.
-/

namespace MountainRange.Json

/-! ## Blanks -/

/-- A text is made up of blanks. -/
def AllSpace (t : Text) : Prop := ∀ c ∈ t, isSpace c = true

/-- A style that sets the parts apart by a mark and blanks behind it. -/
structure Style.IsStandard (style : Style) : Prop where
  comma : ∃ blanks, AllSpace blanks ∧ Text.of style.comma = .char ',' :: blanks
  colon : ∃ blanks, AllSpace blanks ∧ Text.of style.colon = .char ':' :: blanks

theorem Style.isStandard_line : line.IsStandard :=
  ⟨⟨[' '], by simp [AllSpace, isSpace], rfl⟩, [' '], by simp [AllSpace, isSpace], rfl⟩

theorem Style.isStandard_compact : compact.IsStandard :=
  ⟨⟨[], by simp [AllSpace], rfl⟩, [], by simp [AllSpace], rfl⟩

theorem Style.isStandard_indented : indented.IsStandard :=
  ⟨⟨[], by simp [AllSpace], rfl⟩, [' '], by simp [AllSpace, isSpace], rfl⟩

theorem Style.allSpace_lineBreak (style : Style) (level : Nat) :
    AllSpace (style.lineBreak level) := by
  unfold lineBreak
  split
  · simp [AllSpace]
  · intro c hc
    rcases List.mem_cons.mp hc with rfl | hc
    · rfl
    · rw [List.eq_of_mem_replicate hc]
      rfl

variable {blanks rest : Text}

theorem skip_append (h : AllSpace blanks) (rest : Text) : skip (blanks ++ rest) = skip rest :=
  List.dropWhile_append_of_pos h

theorem skip_cons {c : Letter} (h : isSpace c = false) (rest : Text) :
    skip (c :: rest) = c :: rest := List.dropWhile_cons_of_neg (by simp [h])

/-- Blanks and what ends a bracket or goes on in it belong to no number. -/
theorem endsNumber_append (h : AllSpace blanks) (hrest : EndsNumber rest) :
    EndsNumber (blanks ++ rest) := by
  cases blanks with
  | nil => exact hrest
  | cons c blanks =>
      rintro d ⟨⟩
      have hc := h c List.mem_cons_self
      simp only [isSpace, Bool.or_eq_true, decide_eq_true_eq] at hc
      rcases hc with ((rfl | rfl) | rfl) | rfl <;> decide

theorem endsNumber_cons {c : Char} (h : c = ',' ∨ c = ']' ∨ c = '\x7d') (rest : Text) :
    EndsNumber (.char c :: rest) := by
  rintro d ⟨⟩
  rcases h with rfl | rfl | rfl <;> decide

/-! ## Single values -/

/-- Wherever a value stands, its text is read as another value, with more steps than twice the
letters of the text. -/
def ReadsBack (style : Style) (v w : Value) : Prop :=
  ∀ level fuel rest, 2 * (writeValue style level v).length ≤ fuel → EndsNumber rest →
    readValue (fuel + 1) (writeValue style level v ++ rest) = .ok (w, rest)

variable {style : Style}

/-- A number starts with a digit, or with a minus and a digit. -/
theorem exists_digit_of_readNumber {s : Text} {r : Value × Text} (h : readNumber s = .ok r) :
    ∃ negative c t, c.isDigit = true ∧ s = minus negative ++ c :: t := by
  obtain ⟨negative, body, hs, hminus⟩ : ∃ negative body, s = minus negative ++ body ∧
      splitMinus s = (negative, body) := by
    unfold splitMinus
    split
    · exact ⟨true, _, rfl, rfl⟩
    · exact ⟨false, _, rfl, rfl⟩
  unfold readNumber at h
  rw [hminus] at h
  dsimp only at h
  subst hs
  cases body with
  | nil => cases h
  | cons c t =>
      refine ⟨negative, c, t, ?_, rfl⟩
      by_contra hc
      have hnone : splitWhole (c :: t) = ([], c :: t) := by
        rw [splitWhole]
        · simp [splitDigits, hc]
        · intro _ heq
          rw [(List.cons.inj heq).1] at hc
          exact hc rfl
      rw [hnone] at h
      cases h

theorem ne_of_isDigit {c : Letter} (hc : c.isDigit = true) {w : Char} (hw : w.isDigit = false) :
    c ≠ .char w := by
  rintro rfl
  have heq : Letter.isDigit (.char w) = w.isDigit := rfl
  rw [heq, hw] at hc
  cases hc

theorem dropWord?_of_ne {w c : Letter} (h : w ≠ c) (word t : Text) :
    dropWord? (w :: word) (c :: t) = none := if_neg h

/-- No word stands where a number does. -/
theorem readWord?_of_digit {c : Letter} (hc : c.isDigit = true) (negative : Bool) (t : Text) :
    readWord? (minus negative ++ c :: t) = none := by
  have hne : ∀ w : Char, w.isDigit = false → (.char w : Letter) ≠ c :=
    fun w hw => (ne_of_isDigit hc hw).symm
  unfold readWord?
  rw [List.findSome?_eq_none_iff]
  intro entry hentry
  simp only [words, List.mem_cons, List.not_mem_nil, or_false] at hentry
  rw [Option.map_eq_none_iff]
  cases negative with
  | true =>
      rcases hentry with rfl | rfl | rfl | rfl | rfl | rfl
      all_goals first
        | exact dropWord?_of_ne (by decide) _ _
        | exact (if_pos rfl).trans (dropWord?_of_ne (hne 'I' rfl) _ _)
  | false =>
      rcases hentry with rfl | rfl | rfl | rfl | rfl | rfl
      all_goals exact dropWord?_of_ne (hne _ rfl) _ _

theorem readValue_other {c : Letter} (hquote : c ≠ '"') (hbracket : c ≠ '[')
    (hbrace : c ≠ '\x7b') (fuel : Nat) (t : Text) : readValue (fuel + 1) (c :: t) =
      match readWord? (c :: t) with
      | some r => .ok r
      | none => readNumber (c :: t) := by
  rw [readValue.eq_def]
  split
  · next heq => cases heq
  · simp_all
  · simp_all
  · simp_all
  · simp_all
  · rfl

/-- Where a number is read, a value is. -/
theorem readValue_of_readNumber {s : Text} {r : Value × Text} (h : readNumber s = .ok r)
    (fuel : Nat) : readValue (fuel + 1) s = .ok r := by
  obtain ⟨negative, c, t, hc, rfl⟩ := exists_digit_of_readNumber h
  have hword := readWord?_of_digit hc negative t
  cases negative with
  | true =>
      show readValue (fuel + 1) (.char '-' :: c :: t) = _
      rw [readValue_other (by decide) (by decide) (by decide)]
      show (match readWord? (minus true ++ c :: t) with | some r => _ | none => _) = _
      rw [hword]
      exact h
  | false =>
      show readValue (fuel + 1) (c :: t) = _
      rw [readValue_other (ne_of_isDigit hc rfl) (ne_of_isDigit hc rfl) (ne_of_isDigit hc rfl)]
      show (match readWord? (minus false ++ c :: t) with | some r => _ | none => _) = _
      rw [hword]
      exact h

/-- Neither a blank nor a closing bracket stands where a value is read, nor a byte order
mark. -/
theorem exists_start_of_readValue {fuel : Nat} {s : Text} {r : Value × Text}
    (h : readValue fuel s = .ok r) :
    ∃ c t, s = c :: t ∧ isSpace c = false ∧ c ≠ ']' ∧ c ≠ byteOrderMark := by
  cases fuel with
  | zero => cases h
  | succ fuel =>
      cases s with
      | nil => cases h
      | cons c t =>
          refine ⟨c, t, rfl, ?_, ?_, ?_⟩
          · by_contra hspace
            simp only [Bool.not_eq_false, isSpace, Bool.or_eq_true, decide_eq_true_eq] at hspace
            rcases hspace with ((rfl | rfl) | rfl) | rfl <;> cases h
          · rintro rfl
            cases h
          · rintro rfl
            cases h

section Single

variable (style)

theorem readsBack_null : ReadsBack style .null .null := fun _ _ _ _ _ => rfl

theorem readsBack_bool (b : Bool) : ReadsBack style (.bool b) (.bool b) := by
  intro level fuel rest _ _
  cases b <;> rfl

theorem readsBack_int {n : Int} (hn : n.natAbs < Nat.pow 10 Text.Numeral.maxDigits) :
    ReadsBack style (.int n) (.int n) := fun _ fuel _ _ hrest =>
  readValue_of_readNumber (readNumber_toString hn hrest) fuel

theorem readsBack_digit {n : Int} (hn : n.natAbs < 10) : ReadsBack style (.int n) (.int n) :=
  readsBack_int style (Nat.lt_of_lt_of_le hn Text.Numeral.ten_le_pow_maxDigits)

theorem readsBack_float {x : Number.Double} (hx : (Value.float x).isFinite = true) :
    ReadsBack style (.float x) (.float x) := by
  intro level fuel rest _ hrest
  cases x with
  | nan => cases hx
  | infinity => cases hx
  | finite negative m e h =>
      exact readValue_of_readNumber (readNumber_text negative m e h hrest) fuel

/-- An escaped text reads back as the text that arrives, and any other as it is. -/
theorem readsBack_text (t : Text) :
    ReadsBack style (.text t) (.text (if style.escaped then t.joined else t)) := by
  intro level fuel rest _ _
  have hwritten : writeValue style level (.text t) ++ rest =
      .char '"' :: (t.flatMap (writeLetter style.escaped) ++ .char '"' :: rest) := by
    simp [writeValue, writeString, Text.of, Text.ofChars]
  rw [hwritten, readValue, readString_write]
  · rfl
  · simp

/-- A text without halves to join reads back as it is. -/
theorem readsBack_text_of_joined {t : Text} (h : t.joined = t) :
    ReadsBack style (.text t) (.text t) := by
  have hread := readsBack_text style t
  rwa [h, ite_self] at hread

end Single

/-! ## Arrays -/

variable {level fuel : Nat} {v w : Value} {items ws : List Value}

theorem ReadsBack.exists_start (hv : ReadsBack style v w) (level : Nat) :
    ∃ c t, writeValue style level v = c :: t ∧ isSpace c = false ∧ c ≠ ']' ∧
      c ≠ byteOrderMark := by
  have hread := hv level _ [] (Nat.le_refl _) (fun _ h => nomatch h)
  rw [List.append_nil] at hread
  exact exists_start_of_readValue hread

/-- Blanks in front of what is read as a value are taken off. -/
theorem ReadsBack.skip_append (hv : ReadsBack style v w) (hblanks : AllSpace blanks) (level : Nat)
    (rest : Text) : skip (blanks ++ (writeValue style level v ++ rest)) =
      writeValue style level v ++ rest := by
  obtain ⟨c, t, ht, hc, -⟩ := hv.exists_start level
  rw [Json.skip_append hblanks, ht, List.cons_append, skip_cons hc]

variable {s after behind : Text}

theorem readItems_last (hvalue : readValue fuel s = .ok (v, after))
    (hskip : skip after = .char ']' :: rest) : readItems (fuel + 1) s = .ok ([v], rest) := by
  simp only [readItems, hvalue, bind, Except.bind, hskip]
  rfl

theorem readItems_more (hvalue : readValue fuel s = .ok (v, after))
    (hskip : skip after = .char ',' :: rest)
    (hitems : readItems fuel (skip rest) = .ok (items, behind)) :
    readItems (fuel + 1) s = .ok (v :: items, behind) := by
  simp only [readItems, hvalue, bind, Except.bind, hskip, hitems]
  rfl

/-- The items of an array are read to the bracket that ends it. -/
theorem readItems_write (hstyle : style.IsStandard) (hv : ReadsBack style v w)
    (hitems : List.Forall₂ (ReadsBack style) items ws) (hblanks : AllSpace blanks)
    (hfuel : 2 * ((writeValue style level v).length + (writeItems style level items).length) + 2 ≤
      fuel) (rest : Text) :
    readItems fuel (writeValue style level v ++ (writeItems style level items ++
      (blanks ++ .char ']' :: rest))) = .ok (w :: ws, rest) := by
  obtain ⟨fuel, rfl⟩ : ∃ k, fuel = k + 1 + 1 := ⟨fuel - 2, by omega⟩
  induction hitems generalizing v w fuel with
  | nil =>
      rw [writeItems, List.nil_append]
      refine readItems_last (hv level fuel _ (by omega) ?_) ?_
      · exact endsNumber_append hblanks (endsNumber_cons (by simp) rest)
      · exact (skip_append hblanks _).trans (skip_cons (by decide) _)
  | @cons v' w' items ws hfirst hrest ih =>
      obtain ⟨commaBlanks, hcommaBlanks, hcomma⟩ := hstyle.comma
      have hbreak : AllSpace (commaBlanks ++ style.lineBreak level) :=
        List.forall_mem_append.mpr ⟨hcommaBlanks, style.allSpace_lineBreak level⟩
      generalize hend : blanks ++ .char ']' :: rest = ending at ih ⊢
      have hwritten : writeItems style level (v' :: items) ++ ending =
          .char ',' :: ((commaBlanks ++ style.lineBreak level) ++
            (writeValue style level v' ++ (writeItems style level items ++ ending))) := by
        rw [writeItems, hcomma]
        simp
      have hlength : (writeItems style level (v' :: items)).length =
          1 + commaBlanks.length + (style.lineBreak level).length +
            (writeValue style level v').length + (writeItems style level items).length := by
        rw [writeItems, hcomma]
        simp
        omega
      rw [hwritten]
      refine readItems_more (hv level fuel _ (by omega) ?_) (skip_cons (by decide) _) ?_
      · exact endsNumber_cons (by simp) _
      · rw [hfirst.skip_append hbreak]
        obtain ⟨fuel, rfl⟩ : ∃ k, fuel = k + 1 := ⟨fuel - 1, by omega⟩
        exact ih hfirst fuel (by omega)

theorem readValue_array {c : Letter} {t : Text} (hskip : skip s = c :: t) (hc : c ≠ ']')
    (hitems : readItems fuel (c :: t) = .ok (items, rest)) :
    readValue (fuel + 1) (.char '[' :: s) = .ok (.array items, rest) := by
  rw [readValue, hskip]
  split
  · next heq => exact absurd (List.cons.inj heq).1 hc
  · rw [hitems]
    rfl

/-- An array reads back if its items do. -/
theorem readsBack_array (hstyle : style.IsStandard)
    (hitems : List.Forall₂ (ReadsBack style) items ws) :
    ReadsBack style (.array items) (.array ws) := by
  intro level fuel rest hfuel _
  cases hitems with
  | nil => rfl
  | @cons v w items ws hfirst hmore =>
      have hopening := style.allSpace_lineBreak (level + 1)
      have hclosing := style.allSpace_lineBreak level
      have hwritten : writeValue style level (.array (v :: items)) ++ rest =
          .char '[' :: (style.lineBreak (level + 1) ++ (writeValue style (level + 1) v ++
            (writeItems style (level + 1) items ++
              (style.lineBreak level ++ .char ']' :: rest)))) := by
        simp [writeValue, Text.of, Text.ofChars]
      have hlength : 2 + (writeValue style (level + 1) v).length +
          (writeItems style (level + 1) items).length ≤
            (writeValue style level (.array (v :: items))).length := by
        simp [writeValue, Text.of, Text.ofChars]
        omega
      have hsteps : 2 * ((writeValue style (level + 1) v).length +
          (writeItems style (level + 1) items).length) + 2 ≤ fuel := by omega
      have hread := readItems_write hstyle hfirst hmore hclosing hsteps rest
      obtain ⟨c, t, ht, hc, hbracket, -⟩ := hfirst.exists_start (level + 1)
      rw [hwritten]
      refine readValue_array (t := t ++ (writeItems style (level + 1) items ++
        (style.lineBreak level ++ .char ']' :: rest))) ?_ hbracket ?_
      · rw [hfirst.skip_append hopening, ht]
        rfl
      · rw [ht] at hread
        exact hread

/-! ## Objects -/

variable {fields gs before : List (Text × Value)} {name : Text}

/-- A field reads back as another one: its name arrives as it is, and its value reads back. -/
def FieldReadsBack (style : Style) (f g : Text × Value) : Prop :=
  f.1.joined = f.1 ∧ g.1 = f.1 ∧ ReadsBack style f.2 g.2

theorem put_of_not_mem (h : name ∉ before.map Prod.fst) :
    Value.setField before name v = before ++ [(name, v)] := by
  show Entries.put before name v = _
  induction before with
  | nil => rfl
  | cons f before ih =>
      obtain ⟨k, x⟩ := f
      rw [List.map_cons, List.mem_cons, not_or] at h
      rw [Entries.put, if_neg (Ne.symm h.1), ih h.2]
      rfl

/-- A name is read with the colon behind it. -/
theorem readName_write (hstyle : style.IsStandard) (hname : name.joined = name) (level : Nat)
    (hv : ReadsBack style v w) (rest : Text) :
    readName (writeString style.escaped name ++ (Text.of style.colon ++
      (writeValue style level v ++ rest))) = .ok (name, writeValue style level v ++ rest) := by
  obtain ⟨blanks, hblanks, hcolon⟩ := hstyle.colon
  have hwritten : writeString style.escaped name ++ (Text.of style.colon ++
      (writeValue style level v ++ rest)) =
        .char '"' :: (name.flatMap (writeLetter style.escaped) ++
          .char '"' :: .char ':' :: (blanks ++ (writeValue style level v ++ rest))) := by
    rw [hcolon]
    simp [writeString, Text.of, Text.ofChars]
  have hskip : skip (.char ':' :: (blanks ++ (writeValue style level v ++ rest))) =
      .char ':' :: (blanks ++ (writeValue style level v ++ rest)) := skip_cons (by decide) _
  rw [hwritten, readName, readString_write_of_joined style.escaped hname]
  simp only [bind, Except.bind, hskip, hv.skip_append hblanks]
  rfl

theorem readFields_last (hname : readName s = .ok (name, after))
    (hvalue : readValue fuel after = .ok (v, behind))
    (hskip : skip behind = .char '\x7d' :: rest) :
    readFields (fuel + 1) before s = .ok (Value.setField before name v, rest) := by
  simp only [readFields, hname, hvalue, bind, Except.bind, hskip]
  rfl

theorem readFields_more (hname : readName s = .ok (name, after))
    (hvalue : readValue fuel after = .ok (v, behind))
    (hskip : skip behind = .char ',' :: rest) :
    readFields (fuel + 1) before s =
      readFields fuel (Value.setField before name v) (skip rest) := by
  simp only [readFields, hname, hvalue, bind, Except.bind, hskip]

/-- The fields of an object are read to the brace that ends it. -/
theorem readFields_write (hstyle : style.IsStandard) (hname : name.joined = name)
    (hv : ReadsBack style v w) (hfields : List.Forall₂ (FieldReadsBack style) fields gs)
    (hdistinct : (before.map Prod.fst ++ name :: fields.map Prod.fst).Nodup)
    (hblanks : AllSpace blanks)
    (hfuel : 2 * ((writeValue style level v).length + (writeFields style level fields).length) + 2 ≤
      fuel) (rest : Text) :
    readFields fuel before (writeString style.escaped name ++ (Text.of style.colon ++
      (writeValue style level v ++ (writeFields style level fields ++
        (blanks ++ .char '\x7d' :: rest))))) = .ok (before ++ (name, w) :: gs, rest) := by
  obtain ⟨fuel, rfl⟩ : ∃ k, fuel = k + 1 + 1 := ⟨fuel - 2, by omega⟩
  have hnew : name ∉ before.map Prod.fst := by
    intro hold
    have hcount := (List.nodup_append.mp hdistinct).2.2
    exact hcount name hold name List.mem_cons_self rfl
  induction hfields generalizing v w name before fuel with
  | nil =>
      rw [writeFields, List.nil_append, ← put_of_not_mem hnew]
      refine readFields_last (readName_write hstyle hname level hv _)
        (hv level fuel _ (by omega) ?_) ?_
      · exact endsNumber_append hblanks (endsNumber_cons (by simp) rest)
      · exact (skip_append hblanks _).trans (skip_cons (by decide) _)
  | @cons f g fields gs hfirst hrest ih =>
      obtain ⟨name', v'⟩ := f
      obtain ⟨name'', w'⟩ := g
      obtain ⟨hname', heq, hv'⟩ := hfirst
      dsimp only at hname' heq hv'
      subst heq
      obtain ⟨commaBlanks, hcommaBlanks, hcomma⟩ := hstyle.comma
      have hbreak : AllSpace (commaBlanks ++ style.lineBreak level) :=
        List.forall_mem_append.mpr ⟨hcommaBlanks, style.allSpace_lineBreak level⟩
      generalize hend : blanks ++ .char '\x7d' :: rest = ending at ih ⊢
      have hwritten : writeFields style level ((name'', v') :: fields) ++ ending =
          .char ',' :: ((commaBlanks ++ style.lineBreak level) ++
            (writeString style.escaped name'' ++ (Text.of style.colon ++
              (writeValue style level v' ++ (writeFields style level fields ++ ending))))) := by
        rw [writeFields, hcomma]
        simp
      have hlength : 1 + (writeValue style level v').length +
          (writeFields style level fields).length ≤
            (writeFields style level ((name'', v') :: fields)).length := by
        rw [writeFields, hcomma]
        simp
        omega
      have hopen : skip ((commaBlanks ++ style.lineBreak level) ++
          (writeString style.escaped name'' ++ (Text.of style.colon ++
            (writeValue style level v' ++ (writeFields style level fields ++ ending))))) =
          writeString style.escaped name'' ++ (Text.of style.colon ++
            (writeValue style level v' ++ (writeFields style level fields ++ ending))) :=
        (skip_append hbreak _).trans (skip_cons (by decide) _)
      rw [hwritten, readFields_more (readName_write hstyle hname level hv _)
        (hv level fuel _ (by omega) (endsNumber_cons (by simp) _)) (skip_cons (by decide) _), hopen,
        put_of_not_mem hnew, List.append_cons before (name, w) ((name'', w') :: gs)]
      obtain ⟨fuel, rfl⟩ : ∃ k, fuel = k + 1 := ⟨fuel - 1, by omega⟩
      have hdistinct' : ((before ++ [(name, w)]).map Prod.fst ++
          name'' :: fields.map Prod.fst).Nodup := by
        simpa using hdistinct
      refine ih hname' hv' hdistinct' fuel (by omega) ?_
      intro hold
      exact (List.nodup_append.mp hdistinct').2.2 name'' hold name'' List.mem_cons_self rfl

theorem readValue_object {c : Letter} {t : Text} (hskip : skip s = c :: t) (hc : c ≠ '\x7d')
    (hfields : readFields fuel [] (c :: t) = .ok (fields, rest)) :
    readValue (fuel + 1) (.char '\x7b' :: s) = .ok (.object fields, rest) := by
  rw [readValue, hskip]
  split
  · next heq => exact absurd (List.cons.inj heq).1 hc
  · rw [hfields]
    rfl

/-- An object reads back if its fields do and have distinct names. -/
theorem readsBack_object (hstyle : style.IsStandard)
    (hfields : List.Forall₂ (FieldReadsBack style) fields gs)
    (hdistinct : (fields.map Prod.fst).Nodup) :
    ReadsBack style (.object fields) (.object gs) := by
  intro level fuel rest hfuel _
  cases hfields with
  | nil => rfl
  | @cons f g fields gs hfirst hmore =>
      obtain ⟨name, v⟩ := f
      obtain ⟨name', w⟩ := g
      obtain ⟨hname, heq, hv⟩ := hfirst
      dsimp only at hname heq hv
      subst heq
      have hopening := style.allSpace_lineBreak (level + 1)
      have hclosing := style.allSpace_lineBreak level
      generalize hbody : writeString style.escaped name' ++ (Text.of style.colon ++
        (writeValue style (level + 1) v ++ (writeFields style (level + 1) fields ++
          (style.lineBreak level ++ .char '\x7d' :: rest)))) = body
      have hwritten : writeValue style level (.object ((name', v) :: fields)) ++ rest =
          .char '\x7b' :: (style.lineBreak (level + 1) ++ body) := by
        rw [← hbody]
        simp [writeValue, Text.of, Text.ofChars]
      have hlength : 2 + (writeValue style (level + 1) v).length +
          (writeFields style (level + 1) fields).length ≤
            (writeValue style level (.object ((name', v) :: fields))).length := by
        simp [writeValue, Text.of, Text.ofChars]
        omega
      have hsteps : 2 * ((writeValue style (level + 1) v).length +
          (writeFields style (level + 1) fields).length) + 2 ≤ fuel := by omega
      have hnames :
          (([] : List (Text × Value)).map Prod.fst ++ name' :: fields.map Prod.fst).Nodup :=
        hdistinct
      have hread := readFields_write hstyle hname hv hmore hnames hclosing hsteps rest
      rw [hbody, List.nil_append] at hread
      obtain ⟨t, ht⟩ : ∃ t, body = .char '"' :: t := ⟨_, hbody.symm⟩
      have hskip : skip (style.lineBreak (level + 1) ++ body) = body := by
        rw [skip_append hopening, ht, skip_cons (by decide)]
      rw [ht] at hread hskip
      rw [hwritten, ht]
      exact readValue_object hskip (by decide) hread

end MountainRange.Json
