import MountainRange.Command.Run
import MountainRange.Proofs.Spelling
set_option autoImplicit false

/-!
# Reports on the display

A report of the verifier can always be shown.  The reasons it gives hold nothing that the
display takes for a tag, an escape or the name of an emoji, so each cell of the table is
shown as it is.  The lines drawn of it are made up of the letters of its cells and of those
of the box, none of which is half a character.  So is the report in JSON.
-/

namespace MountainRange

/-! ## Plain texts -/

/-- A letter that the display shows whatever stands around it. -/
def Letter.IsPlain (c : Letter) : Prop :=
  c.isSurrogate = false ∧ c ≠ '[' ∧ c ≠ '\\' ∧ c ≠ ':' ∧ Markup.isCursorControl c = false

instance (c : Letter) : Decidable c.IsPlain := inferInstanceAs (Decidable (_ ∧ _))

namespace Text

/-- A text of which the display shows every letter. -/
def IsPlain (t : Text) : Prop := ∀ c ∈ t, c.IsPlain

instance (t : Text) : Decidable t.IsPlain := inferInstanceAs (Decidable (∀ c ∈ t, _))

theorem isPlain_append_iff {s t : Text} : IsPlain (s ++ t) ↔ s.IsPlain ∧ t.IsPlain :=
  List.forall_mem_append

theorem of_append (s t : String) : of (s ++ t) = of s ++ of t := by
  rw [of, String.toList_append, ofChars, List.map_append]
  rfl

/-! ### Numerals -/

theorem isPlain_of_natRepr (n : Nat) : IsPlain (of (toString n)) := by
  obtain ⟨ds, hdigits, hlt, -⟩ := exists_digits (by decide : 1 < 10) n
  have hchars : (toString n).toList = ds.map Nat.digitChar := by
    rw [← hdigits]
    exact String.toList_ofList
  have hall : ∀ d < 10, Letter.IsPlain (.char (Nat.digitChar d)) := by decide
  intro c hc
  rw [of, hchars, ofChars, List.map_map, List.mem_map] at hc
  obtain ⟨d, hd, rfl⟩ := hc
  exact hall d (hlt d hd)

theorem isPlain_of_intRepr (n : Int) : IsPlain (of (toString n)) := by
  cases n with
  | ofNat n => exact isPlain_of_natRepr n
  | negSucc n =>
      have hrepr : toString (Int.negSucc n) = "-" ++ toString (n + 1) := rfl
      rw [hrepr, of_append, isPlain_append_iff]
      exact ⟨by decide, isPlain_of_natRepr (n + 1)⟩

theorem isPlain_tooLongMessage : IsPlain (of Numeral.tooLongMessage) := by
  decide +kernel

end Text

/-! ## Plain markup -/

namespace Markup

variable {t : Text}

theorem partsFrom_of_isPlain (plain : Text) (ht : t.IsPlain) :
    partsFrom plain 0 t = [.plain (plain ++ t)] := by
  induction t generalizing plain with
  | nil => rw [partsFrom, backslashes, List.replicate_zero]
  | cons c t ih =>
      obtain ⟨⟨-, hbracket, hslash, -⟩, hrest⟩ := List.forall_mem_cons.mp ht
      rw [partsFrom, if_neg hslash, if_neg hbracket, ih _ hrest]
      simp [backslashes]

theorem unescape_of_isPlain (ht : t.IsPlain) : unescape t = t := by
  induction t with
  | nil => rfl
  | cons c t ih =>
      obtain ⟨⟨-, -, hslash, -⟩, hrest⟩ := List.forall_mem_cons.mp ht
      unfold unescape
      split
      · next heq =>
          cases heq
          exact absurd rfl hslash
      · next heq =>
          cases heq
          rw [ih hrest]
      · next heq => cases heq

theorem Emoji.replace_of_isPlain (ht : t.IsPlain) : Emoji.replace t = t := by
  -- The equations of `replaceFrom` are read off by unfolding: a rewrite would look into the
  -- table of names.
  unfold Emoji.replace
  induction t with
  | nil =>
      delta Emoji.replaceFrom
      rfl
  | cons c t ih =>
      obtain ⟨⟨-, -, -, hcolon, -⟩, hrest⟩ := List.forall_mem_cons.mp ht
      show (if c = ':' then Emoji.replaceFrom (some []) t else c :: Emoji.replaceFrom none t) = _
      rw [if_neg hcolon, ih hrest]

/-- Plain text is shown as it is. -/
theorem shown_of_isPlain (ht : t.IsPlain) : shown t = .ok t := by
  have hcontrols : t.filter (!isCursorControl ·) = t := by
    rw [List.filter_eq_self]
    intro c hc
    rw [(ht c hc).2.2.2.2]
    rfl
  have hplain : shownPlain t = t := by
    rw [shownPlain, unescape_of_isPlain ht, Emoji.replace_of_isPlain ht, hcontrols]
  rw [shown, parts, partsFrom_of_isPlain [] ht]
  show Except.ok (shownPlain t ++ []) = _
  rw [hplain, List.append_nil]

end Markup


/-! ## Reasons -/

theorem Text.Numeral.isPlain_writing {written : Option Text} {message : Text → Text}
    (h : ∀ t, written = some t → (message t).IsPlain) : (writing written message).IsPlain := by
  cases written with
  | none => exact isPlain_tooLongMessage
  | some t => exact h t rfl

theorem Text.Numeral.isPlain_of_writeText? {n : Int} {t : Text} (h : writeText? n = some t) :
    t.IsPlain := by
  rw [writeText?, write?] at h
  generalize Nat.pow 10 maxDigits = bound at h
  split at h
  · cases h
    exact isPlain_of_intRepr n
  · cases h

theorem Rejection.isPlain_message (rejection : Rejection) : rejection.message.IsPlain := by
  cases rejection with
  | leafOutside leaf size =>
      rw [message, MountainError.message]
      refine Text.Numeral.isPlain_writing fun leafDigits hleaf => ?_
      refine Text.Numeral.isPlain_writing fun sizeDigits hsize => ?_
      have hleafPlain := Text.Numeral.isPlain_of_writeText? hleaf
      have hsizePlain := Text.Numeral.isPlain_of_writeText? hsize
      simp only [Text.isPlain_append_iff, hleafPlain, hsizePlain]
      decide
  | _ =>
      simp only [message, Text.of_append, Text.isPlain_append_iff, Text.isPlain_of_natRepr]
      decide

theorem Outcome.isPlain_reason (o : Outcome) : o.reason.IsPlain := by
  cases o with
  | accepted => decide
  | rejected rejection => exact rejection.isPlain_message

/-! ## Texts that can be written in bytes -/

namespace Text

/-- A text without surrogates. -/
def Encodable (t : Text) : Prop := ∀ c ∈ t, c.isSurrogate = false

instance (t : Text) : Decidable t.Encodable := inferInstanceAs (Decidable (∀ c ∈ t, _))

theorem IsPlain.encodable {t : Text} (h : t.IsPlain) : t.Encodable := fun c hc => (h c hc).1

theorem encodable_append_iff {s t : Text} : Encodable (s ++ t) ↔ s.Encodable ∧ t.Encodable :=
  List.forall_mem_append

theorem forall_mem_join {P : Letter → Prop} {between : Text} {parts : List Text}
    (hbetween : ∀ c ∈ between, P c) (h : ∀ part ∈ parts, ∀ c ∈ part, P c) :
    ∀ c ∈ join between parts, P c := by
  induction parts with
  | nil => exact nofun
  | cons part parts ih =>
      obtain ⟨hpart, hparts⟩ := List.forall_mem_cons.mp h
      cases parts with
      | nil =>
          rw [join, List.intercalate_singleton]
          exact hpart
      | cons next rest =>
          rw [join, List.intercalate_cons_cons, List.append_assoc]
          exact List.forall_mem_append.mpr
            ⟨hpart, List.forall_mem_append.mpr ⟨hbetween, ih hparts⟩⟩

theorem encodeError?_of_encodable {t : Text} (h : t.Encodable) : encodeError? t = none := by
  have hwhole : t.takeWhile (!Letter.isSurrogate ·) = t := by
    rw [List.takeWhile_eq_self_iff]
    intro c hc
    rw [h c hc]
    rfl
  rw [encodeError?, runError?, hwhole, List.drop_length]
  rfl

namespace Encodable

variable {s t : Text} {c : Letter}

theorem nil : Encodable [] := nofun

theorem cons (hc : c.isSurrogate = false) (ht : t.Encodable) : Encodable (c :: t) :=
  List.forall_mem_cons.mpr ⟨hc, ht⟩

theorem head (h : Encodable (c :: t)) : c.isSurrogate = false := (List.forall_mem_cons.mp h).1

theorem tail (h : Encodable (c :: t)) : t.Encodable := (List.forall_mem_cons.mp h).2

theorem append (hs : s.Encodable) (ht : t.Encodable) : Encodable (s ++ t) :=
  encodable_append_iff.mpr ⟨hs, ht⟩

theorem snoc (ht : t.Encodable) (hc : c.isSurrogate = false) : Encodable (t ++ [c]) :=
  ht.append (.cons hc .nil)

theorem replicate (n : Nat) (hc : c.isSurrogate = false) : Encodable (List.replicate n c) :=
  fun _ hd => (List.mem_replicate.mp hd).2 ▸ hc

theorem spaces (n : Nat) : Encodable (List.replicate n ' ') := .replicate n rfl

theorem of_subset (h : s ⊆ t) (ht : t.Encodable) : s.Encodable := fun c hc => ht c (h hc)

theorem ofChars (cs : List Char) : Encodable (Text.ofChars cs) := by
  intro c hc
  obtain ⟨d, -, rfl⟩ := List.mem_map.mp hc
  rfl

theorem join {between : Text} {parts : List Text} (hbetween : between.Encodable)
    (h : ∀ part ∈ parts, Encodable part) : Encodable (Text.join between parts) :=
  forall_mem_join hbetween h

end Encodable

/-! ### Wrapping -/

variable {t : Text}

theorem Encodable.splitAt (h : t.Encodable) (isBreak : Letter → Bool) :
    ∀ part ∈ splitAt isBreak t, Encodable part := by
  induction t with
  | nil => exact fun part hpart => List.mem_singleton.mp hpart ▸ .nil
  | cons c t ih =>
      have hrest := ih h.tail
      unfold Text.splitAt
      split
      · exact List.forall_mem_cons.mpr ⟨.nil, hrest⟩
      · split
        · next part parts hparts =>
            rw [hparts] at hrest
            obtain ⟨hpart, hothers⟩ := List.forall_mem_cons.mp hrest
            exact List.forall_mem_cons.mpr ⟨hpart.cons h.head, hothers⟩
        · exact List.forall_mem_singleton.mpr (.cons h.head .nil)

theorem Encodable.expandFrom {position : Nat} {part : Text} (hpart : part.Encodable)
    (h : t.Encodable) : Encodable (expandFrom position part t) := by
  induction t generalizing position part with
  | nil => exact hpart
  | cons c t ih =>
      unfold Text.expandFrom
      split
      · exact ((hpart.snoc rfl).append (.spaces _)).append (ih .nil h.tail)
      · exact ih (hpart.snoc h.head) h.tail

theorem Encodable.wordsFrom {word : Text} {ended : Bool} (hword : word.Encodable)
    (h : t.Encodable) : ∀ w ∈ wordsFrom word ended t, Encodable w := by
  induction t generalizing word ended with
  | nil =>
      unfold Text.wordsFrom
      split
      · exact nofun
      · exact List.forall_mem_singleton.mpr hword
  | cons c t ih =>
      unfold Text.wordsFrom
      split
      · exact ih (hword.snoc h.head) h.tail
      · split
        · exact List.forall_mem_cons.mpr ⟨hword, ih (.cons h.head .nil) h.tail⟩
        · exact ih (hword.snoc h.head) h.tail

/-- Where words are cut and not folded, each stands on a line whole. -/
theorem Encodable.fillLines {columns used : Nat} {line : Text} {ws : List Text}
    (hline : line.Encodable) (h : ∀ w ∈ ws, Encodable w) :
    ∀ l ∈ fillLines .ellipsis columns line used ws, Encodable l := by
  induction ws generalizing line used with
  | nil => exact List.forall_mem_singleton.mpr hline
  | cons w ws ih =>
      obtain ⟨hw, hws⟩ := List.forall_mem_cons.mp h
      have hbefore : ∀ l ∈ (if line.isEmpty then [] else [line]), Encodable l := by
        split
        · exact nofun
        · exact List.forall_mem_singleton.mpr hline
      unfold Text.fillLines
      dsimp only
      split
      · exact ih (hline.append hw) hws
      · split
        · next hfold => cases hfold.1
        · exact List.forall_mem_append.mpr ⟨hbefore, ih hw hws⟩

theorem Encodable.clustersFrom {k : Cluster} {base : Option Letter} (hk : k.letters.Encodable)
    (h : t.Encodable) : ∀ k' ∈ clustersFrom k base t, k'.letters.Encodable := by
  fun_induction Text.clustersFrom k base t with
  | case1 k base => exact List.forall_mem_singleton.mpr hk
  | case2 k base => exact List.forall_mem_singleton.mpr (hk.append h)
  | case3 k base c rest ih =>
      exact ih (hk.append (.cons h.head (.cons h.tail.head .nil))) h.tail.tail
  | case4 k base rest _ _ ih => exact ih (hk.snoc h.head) h.tail
  | case5 k base rest _ _ ih => exact ih (hk.snoc h.head) h.tail
  | case6 k base c rest _ _ _ ih => exact ih (hk.snoc h.head) h.tail
  | case7 k base c rest _ _ _ ih =>
      exact List.forall_mem_cons.mpr ⟨hk, ih (.cons h.head .nil) h.tail⟩

theorem Encodable.clusters (h : t.Encodable) : ∀ k ∈ clusters t, k.letters.Encodable := by
  cases t with
  | nil => exact nofun
  | cons c t => exact .clustersFrom (.cons h.head .nil) h.tail

theorem encodable_cutClusters {columns : Nat} {ks : List Cluster}
    (h : ∀ k ∈ ks, k.letters.Encodable) : Encodable (cutClusters columns ks) := by
  fun_induction Text.cutClusters columns ks with
  | case1 ks => exact .nil
  | case2 columns => exact .spaces _
  | case3 columns k rest => exact .spaces _
  | case4 columns k rest _ _ ih =>
      obtain ⟨hk, hrest⟩ := List.forall_mem_cons.mp h
      exact hk.append (ih hrest)

theorem Encodable.limit {columns : Nat} (h : t.Encodable) :
    Encodable (limit .ellipsis columns t) := by
  unfold Text.limit
  split
  · exact h
  · exact (encodable_cutClusters h.clusters).snoc rfl

theorem Encodable.wrap {columns : Nat} (h : t.Encodable) :
    ∀ line ∈ wrap .ellipsis columns t, Encodable line := by
  intro line hline
  obtain ⟨part, hpart, hline⟩ := List.mem_flatMap.mp hline
  obtain ⟨filled, hfilled, rfl⟩ := List.mem_map.mp hline
  have hexpanded : Encodable (expandTabs part) := .expandFrom .nil (h.splitAt _ part hpart)
  have hline := Encodable.fillLines .nil (.wordsFrom .nil hexpanded) filled hfilled
  exact .limit (.of_subset (List.take_subset _ _) hline)

theorem Encodable.padTo {columns : Nat} (h : t.Encodable) : Encodable (padTo columns t) :=
  h.append (.spaces _)

end Text

/-! ## Tables -/

namespace Table

open Text (Encodable)

theorem forall_mem_zipWith {α β γ : Type} {f : α → β → γ} {P : γ → Prop} {xs : List α}
    {ys : List β} (h : ∀ x, ∀ y ∈ ys, P (f x y)) : ∀ z ∈ xs.zipWith f ys, P z := by
  induction xs generalizing ys with
  | nil => exact nofun
  | cons x xs ih =>
      cases ys with
      | nil => exact nofun
      | cons y ys =>
          refine List.forall_mem_cons.mpr ⟨h x y List.mem_cons_self, ?_⟩
          exact ih fun x' y' hy' => h x' y' (List.mem_cons_of_mem _ hy')

/-- A table of plain texts. -/
structure IsPlain (t : Table) : Prop where
  title : t.title.IsPlain
  header : ∀ cell ∈ t.header, Text.IsPlain cell
  rows : ∀ row ∈ t.rows, ∀ cell ∈ row, Text.IsPlain cell

theorem mapM_shown {cells : List Text} (h : ∀ cell ∈ cells, Text.IsPlain cell) :
    cells.mapM Markup.shown = .ok cells := by
  induction cells with
  | nil => rfl
  | cons cell cells ih =>
      obtain ⟨hcell, hcells⟩ := List.forall_mem_cons.mp h
      rw [List.mapM_cons, Markup.shown_of_isPlain hcell, ih hcells]
      rfl

/-- A plain table shows its cells as they are. -/
theorem IsPlain.grid_eq {t : Table} (h : t.IsPlain) :
    t.grid = .ok ⟨t.title, t.header, t.rows⟩ := by
  have hrows : ∀ rows : List (List Text), (∀ row ∈ rows, ∀ cell ∈ row, Text.IsPlain cell) →
      rows.mapM (fun row => row.mapM Markup.shown) = .ok rows := by
    intro rows hplain
    induction rows with
    | nil => rfl
    | cons row rows ih =>
        obtain ⟨hrow, hothers⟩ := List.forall_mem_cons.mp hplain
        rw [List.mapM_cons, mapM_shown hrow, ih hothers]
        rfl
  rw [grid, Markup.shown_of_isPlain h.title, mapM_shown h.header, hrows _ h.rows]
  rfl

/-! ### Lines of a table -/

/-- A line of the box that can be written in bytes. -/
structure Rule.Encodable (rule : Rule) : Prop where
  left : rule.left.isSurrogate = false
  middle : rule.middle.isSurrogate = false
  right : rule.right.isSurrogate = false
  fill : rule.fill.isSurrogate = false

theorem encodable_drawRule {rule : Rule} (h : rule.Encodable) (widths : List Nat) :
    Encodable (drawRule rule widths) := by
  have hparts : ∀ part ∈ widths.map fun w => List.replicate (w + 2) rule.fill, Encodable part := by
    intro part hpart
    obtain ⟨w, -, rfl⟩ := List.mem_map.mp hpart
    exact .replicate _ h.fill
  exact .cons h.left ((Encodable.join (.cons h.middle .nil) hparts).snoc h.right)

variable {bar : Letter} {widths : List Nat} {cells : List Text}

theorem encodable_drawCells (hbar : bar.isSurrogate = false) (h : ∀ cell ∈ cells, Encodable cell) :
    Encodable (drawCells bar widths cells) := by
  have hspace : Encodable (Text.of " ") := .spaces 1
  refine .cons hbar ((Encodable.join (.cons hbar .nil) ?_).snoc hbar)
  exact forall_mem_zipWith fun w cell hcell => (hspace.append (h cell hcell).padTo).append hspace

theorem encodable_drawRow (hbar : bar.isSurrogate = false) (h : ∀ cell ∈ cells, Encodable cell) :
    ∀ line ∈ drawRow bar widths cells, Encodable line := by
  have hlines : ∀ lines ∈ widths.zipWith cellLines cells, ∀ line ∈ lines, Encodable line := by
    refine forall_mem_zipWith fun w cell hcell line hline => ?_
    obtain ⟨wrapped, hwrapped, rfl⟩ := List.mem_map.mp hline
    exact ((h cell hcell).wrap wrapped hwrapped).padTo
  intro line hline
  obtain ⟨i, -, rfl⟩ := List.mem_map.mp hline
  refine encodable_drawCells hbar fun cell hcell => ?_
  obtain ⟨lines, hmem, rfl⟩ := List.mem_map.mp hcell
  cases hline : lines[i]? with
  | none => exact .nil
  | some line => exact hlines lines hmem line (List.mem_of_getElem? hline)

/-- What is drawn of cells that can be written in bytes can be written in bytes. -/
theorem Grid.encodable_lines {g : Grid} (htitle : g.title.Encodable)
    (hheader : ∀ cell ∈ g.header, Encodable cell)
    (hrows : ∀ row ∈ g.rows, ∀ cell ∈ row, Encodable cell) : ∀ line ∈ g.lines, Encodable line := by
  have htop : topRule.Encodable := ⟨rfl, rfl, rfl, rfl⟩
  have hhead : headRule.Encodable := ⟨rfl, rfl, rfl, rfl⟩
  have hbottom : bottomRule.Encodable := ⟨rfl, rfl, rfl, rfl⟩
  simp only [Grid.lines, List.forall_mem_append, List.forall_mem_cons, List.not_mem_nil,
    false_implies, implies_true, and_true]
  refine ⟨⟨⟨⟨⟨?_, encodable_drawRule htop _⟩, encodable_drawRow rfl hheader⟩,
    encodable_drawRule hhead _⟩, ?_⟩, encodable_drawRule hbottom _⟩
  · exact ((Encodable.spaces _).append htitle).padTo
  · intro line hline
    obtain ⟨row, hrow, hline⟩ := List.mem_flatMap.mp hline
    exact encodable_drawRow rfl (hrows row hrow) line hline

theorem IsPlain.exists_render {t : Table} (h : t.IsPlain) :
    ∃ output, t.render = .ok output ∧ output.Encodable := by
  refine ⟨_, by rw [render, h.grid_eq]; rfl, ?_⟩
  intro c hc
  obtain ⟨line, hline, hc⟩ := List.mem_flatMap.mp hc
  have hencodable := Grid.encodable_lines h.title.encodable
    (fun cell hcell => (h.header cell hcell).encodable)
    (fun row hrow cell hcell => (h.rows row hrow cell hcell).encodable) line hline
  exact hencodable.snoc rfl c hc

end Table

/-! ## Strings in JSON -/

namespace Json

open Text (Encodable)

variable {c : Letter} {t : Text}

theorem encodable_writeLetter (escaped : Bool) (h : c.isSurrogate = false) :
    Encodable (writeLetter escaped c) := by
  have hslash : ∀ d : Letter, d.isSurrogate = false → Encodable ['\\', d] :=
    fun d hd => .cons rfl (.cons hd .nil)
  unfold writeLetter
  repeat' split
  · exact hslash c h
  · exact hslash _ rfl
  · exact hslash _ rfl
  · exact hslash _ rfl
  · exact hslash _ rfl
  · exact hslash _ rfl
  · exact .ofChars _
  · exact .cons h .nil

theorem encodable_writeString (escaped : Bool) (h : t.Encodable) :
    Encodable (writeString escaped t) := by
  have hquote : Encodable (Text.of "\"") := by decide
  refine (hquote.append fun c hc => ?_).append hquote
  obtain ⟨d, hd, hc⟩ := List.mem_flatMap.mp hc
  exact encodable_writeLetter escaped (h d hd) c hc

theorem Style.encodable_lineBreak (style : Style) (level : Nat) :
    Encodable (style.lineBreak level) := by
  unfold lineBreak
  split
  · exact .nil
  · exact .cons rfl (.spaces _)

end Json

/-! ## Reports -/

namespace Command

variable (files : Files) (mode : Mode) (outcome : Outcome)

/-- The table of a report is plain: its reason is, and the rest is made up of fixed words and
a number. -/
theorem exists_verdictTable : ∃ table,
    Printed.verdictTable (Report.ofOutcome mode outcome).toValue = .ok table ∧ table.IsPlain := by
  have hverdict : Text.IsPlain (Printed.verdictCell outcome.isValid) := by
    cases outcome.isValid <;> decide
  have hcode : Text.IsPlain (Value.int (outcome.code : Nat)).shown :=
    Text.isPlain_of_intRepr _
  have hscheme : Text.IsPlain (Printed.schemeCell (.int mode.number)) := by
    cases mode <;> decide
  have hwords : Text.IsPlain "Proof Verification" ∧ Text.IsPlain "Property" ∧
      Text.IsPlain "Value" ∧ Text.IsPlain "Verdict" ∧ Text.IsPlain "Result Code" ∧
      Text.IsPlain "Scheme" ∧ Text.IsPlain "Reason" := by decide
  obtain ⟨htitle, hproperty, hvalue, hrows⟩ := hwords
  refine ⟨_, rfl, htitle, ?_, ?_⟩
  · simp only [List.forall_mem_cons, List.not_mem_nil, false_implies, implies_true, and_true]
    exact ⟨hproperty, hvalue⟩
  · simp only [List.forall_mem_cons, List.not_mem_nil, false_implies, implies_true, and_true]
    exact ⟨⟨hrows.1, hverdict⟩, ⟨hrows.2.1, hcode⟩, ⟨hrows.2.2.1, hscheme⟩, hrows.2.2.2,
      outcome.isPlain_reason⟩

/-- Of a report in JSON all but the reason is fixed words and numbers. -/
theorem encodable_write_report (style : Json.Style) :
    Text.Encodable (Json.write style (Report.ofOutcome mode outcome).toValue) := by
  have hword : ∀ s : String, Text.Encodable (Text.of s) := fun _ => .ofChars _
  have hvalid : ∀ valid, Text.Encodable (Json.writeValue style 1 (.bool valid)) := by
    rintro (_ | _) <;> exact hword _
  have hstring : ∀ t : Text, t.Encodable → Text.Encodable (Json.writeString style.escaped t) :=
    fun _ => Json.encodable_writeString _
  rw [Json.write]
  simp only [Report.ofOutcome, Report.toValue, Json.writeValue, Json.writeFields,
    Text.encodable_append_iff, hvalid, hword, style.encodable_lineBreak, hstring _ (hword _),
    hstring _ outcome.isPlain_reason.encodable, and_self]
  decide

theorem encodable_json :
    Text.Encodable (Printed.json (Report.ofOutcome mode outcome).toValue) :=
  (encodable_write_report mode outcome .indented).append (.ofChars _)

theorem exists_printed (format : Format) : ∃ output, output.Encodable ∧
    Printed.report format (Report.ofOutcome mode outcome).toValue = .ok output := by
  cases format with
  | json => exact ⟨_, encodable_json mode outcome, rfl⟩
  | table =>
      obtain ⟨table, htable, hplain⟩ := exists_verdictTable mode outcome
      obtain ⟨output, hrender, hencodable⟩ := hplain.exists_render
      refine ⟨output, hencodable, ?_⟩
      rw [Printed.report, htable]
      show (table.render).mapError _ = _
      rw [hrender]
      rfl

/-- A report of the verifier ends a command with the status of the verdict. -/
theorem finish_eq_done (format : Format) : ∃ output, output.Encodable ∧
    finish files format (Report.ofOutcome mode outcome).toValue =
      ⟨output, .done (verdictStatus outcome.isValid), files⟩ := by
  obtain ⟨output, hencodable, hreport⟩ := exists_printed mode outcome format
  have hvalid : Printed.isValid (Report.ofOutcome mode outcome).toValue = .ok outcome.isValid := rfl
  exact ⟨output, hencodable, by rw [finish, hreport, hvalid]⟩

end Command

end MountainRange
