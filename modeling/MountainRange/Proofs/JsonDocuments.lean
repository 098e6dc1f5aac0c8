import MountainRange.Proofs.Display
import MountainRange.Proofs.JsonValues
import MountainRange.Proofs.Remainders
set_option autoImplicit false

/-!
# Documents that are written again

A document that is written of a value holds the value.  What was read from a document without
surrogates can be written and read again: its texts are joined, its integers short and the names
of its fields distinct, so nothing but a float that is not finite stands in the way.
-/

namespace MountainRange.Json

variable {style : Style} {fuel : Nat} {v w : Value} {items : List Value} {name s rest : Text}
  {fields : List (Text × Value)}

/-! ## Documents -/

/-- A value that reads back is what a document of it holds, with blanks behind it as well. -/
theorem readDocument_append (hv : ReadsBack style v w) {blanks : Text} (hblanks : AllSpace blanks) :
    readDocument (write style v ++ blanks) = .ok w := by
  obtain ⟨c, t, ht, hc, -⟩ := hv.exists_start 0
  have hskip : skip (writeValue style 0 v ++ blanks) = writeValue style 0 v ++ blanks := by
    rw [ht, List.cons_append, skip_cons hc]
  have hsteps : 2 * (writeValue style 0 v).length ≤
      2 * (writeValue style 0 v ++ blanks).length + 1 := by
    rw [List.length_append]
    omega
  have hends : EndsNumber blanks := by
    have hnothing : EndsNumber [] := fun _ h => nomatch h
    simpa using endsNumber_append hblanks hnothing
  have hrest : skip blanks = [] := by simpa [skip] using skip_append hblanks []
  have htext : readText (write style v ++ blanks) = .ok w := by
    rw [readText, write, hskip, hv 0 _ blanks hsteps hends]
    simp only [bind, Except.bind, hrest]
    rfl
  rw [readDocument, htext]

theorem readDocument_write (hv : ReadsBack style v w) :
    readDocument (write style v) = .ok w := by
  have hread := @readDocument_append style v w hv [] (by simp [AllSpace])
  rwa [List.append_nil] at hread

/-- A document of a value that reads back starts with no byte order mark. -/
theorem read_append (hv : ReadsBack style v w) {blanks : Text} (hblanks : AllSpace blanks) :
    read (write style v ++ blanks) = .ok w := by
  have hdocument := readDocument_append hv hblanks
  obtain ⟨c, t, ht, -, -, hmark⟩ := hv.exists_start 0
  rw [write, ht, List.cons_append] at hdocument ⊢
  rw [read, if_neg hmark, hdocument]

theorem read_write (hv : ReadsBack style v w) : read (write style v) = .ok w := by
  have hread := @read_append style v w hv [] (by simp [AllSpace])
  rwa [List.append_nil] at hread

/-! ## What was read -/

/-- What was read reads back, unless a float in it is not finite. -/
def Rereads (style : Style) (v : Value) : Prop := v.isFinite = true → ReadsBack style v v

/-- Fields as they are read: their names are distinct and arrive as they are. -/
structure FieldsRead (style : Style) (fields : List (Text × Value)) : Prop where
  distinct : (fields.map Prod.fst).Nodup
  joined : ∀ f ∈ fields, f.1.joined = f.1
  rereads : ∀ f ∈ fields, Rereads style f.2

theorem mem_put {f : Text × Value} (h : f ∈ Entries.put fields name v) :
    f = (name, v) ∨ f ∈ fields := by
  fun_induction Entries.put fields name v with
  | case1 => exact .inl (List.mem_singleton.mp h)
  | case2 =>
      rcases List.mem_cons.mp h with rfl | h
      · simp_all
      · exact .inr (List.mem_cons_of_mem _ h)
  | case3 _ _ _ _ _ _ ih =>
      rcases List.mem_cons.mp h with rfl | h
      · exact .inr List.mem_cons_self
      · exact (ih h).imp_right (List.mem_cons_of_mem _)

theorem map_fst_put (fields : List (Text × Value)) (name : Text) (v : Value) :
    (Entries.put fields name v).map Prod.fst =
      if name ∈ fields.map Prod.fst then fields.map Prod.fst
      else fields.map Prod.fst ++ [name] := by
  fun_induction Entries.put fields name v with
  | case1 => rfl
  | case2 => simp_all
  | case3 k y rest name' x hne ih =>
      rw [List.map_cons, ih]
      split <;> simp_all [Ne.symm hne]

/-- A name that is given leaves the names distinct. -/
theorem nodup_put (h : (fields.map Prod.fst).Nodup) (name : Text) (v : Value) :
    ((Entries.put fields name v).map Prod.fst).Nodup := by
  rw [map_fst_put]
  split
  · exact h
  · next hnew =>
      refine List.nodup_append.mpr ⟨h, by simp, ?_⟩
      rintro k hk k' hk' rfl
      exact hnew (List.mem_singleton.mp hk' ▸ hk)

theorem FieldsRead.setField (h : FieldsRead style fields) (hname : name.joined = name)
    (hv : Rereads style v) : FieldsRead style (Value.setField fields name v) where
  distinct := nodup_put h.distinct name v
  joined := by
    intro f hf
    rcases mem_put hf with rfl | hf
    · exact hname
    · exact h.joined f hf
  rereads := by
    intro f hf
    rcases mem_put hf with rfl | hf
    · exact hv
    · exact h.rereads f hf

/-- The fields of an object with finite floats read back. -/
theorem FieldsRead.readsBack (h : FieldsRead style fields)
    (hfinite : Value.fieldsFinite fields = true) :
    List.Forall₂ (FieldReadsBack style) fields fields := by
  obtain ⟨-, hjoined, hrereads⟩ := h
  induction fields with
  | nil => exact .nil
  | cons f fields ih =>
      rw [Value.fieldsFinite, Bool.and_eq_true] at hfinite
      obtain ⟨hf, hfields⟩ := List.forall_mem_cons.mp hjoined
      obtain ⟨hv, hvs⟩ := List.forall_mem_cons.mp hrereads
      exact .cons ⟨hf, rfl, hv hfinite.1⟩ (ih hfinite.2 hfields hvs)

/-- The items of an array with finite floats read back. -/
theorem readsBack_items (h : ∀ v ∈ items, Rereads style v)
    (hfinite : Value.areFinite items = true) :
    List.Forall₂ (ReadsBack style) items items := by
  induction items with
  | nil => exact .nil
  | cons v items ih =>
      rw [Value.areFinite, Bool.and_eq_true] at hfinite
      obtain ⟨hv, hitems⟩ := List.forall_mem_cons.mp h
      exact .cons (hv hfinite.1) (ih hitems hfinite.2)

theorem allDigits_splitDigits (s : Text) : Text.Numeral.AllDigits (splitDigits s).1 :=
  fun _ hc => List.mem_takeWhile_imp hc

theorem allDigits_splitWhole (s : Text) : Text.Numeral.AllDigits (splitWhole s).1 := by
  unfold splitWhole
  split
  · exact Text.Numeral.allDigits_zeros 1
  · exact allDigits_splitDigits s

theorem valueOf_lt {digits : Text} (h : Text.Numeral.AllDigits digits) :
    Text.Numeral.valueOf digits < 10 ^ digits.length := by
  induction digits using List.reverseRecOn with
  | nil => exact Nat.one_pos
  | append_singleton digits c ih =>
      obtain ⟨hdigits, hc⟩ := List.forall_mem_append.mp h
      have hlast : Text.Numeral.valueOf [c] < 10 := by
        have hc := hc c (List.mem_singleton.mpr rfl)
        rcases c with c | s
        · have hbounds := (Text.isDigit_char_iff c).mp hc
          simp only [Text.Numeral.valueOf, List.foldl_cons, List.foldl_nil, Letter.toNat]
          omega
        · cases hc
      have ih := ih hdigits
      rw [Text.Numeral.valueOf_append, List.length_append, List.length_singleton, pow_one, pow_succ]
      omega

theorem valueOf_lt_of_length_le {digits : Text} (h : Text.Numeral.AllDigits digits) {k : Nat}
    (hk : digits.length ≤ k) : Text.Numeral.valueOf digits < Nat.pow 10 k :=
  Nat.lt_of_lt_of_le (valueOf_lt h) (Nat.pow_le_pow_right (by decide) hk)

theorem rereads_integer {negative : Bool} {digits : Text} (hdigits : Text.Numeral.AllDigits digits)
    (h : integer? negative digits = .ok v) : Rereads style v := by
  unfold integer? at h
  split at h
  · cases h
  · next hlength =>
      cases h
      refine fun _ => readsBack_int style ?_
      have habs : (Number.Double.signed negative (Text.Numeral.valueOf digits)).natAbs =
          Text.Numeral.valueOf digits := by
        cases negative <;> simp [Number.Double.signed]
      rw [habs]
      exact valueOf_lt_of_length_le hdigits (Nat.le_of_not_lt hlength)

theorem rereads_number (h : readNumber s = .ok (v, rest)) : Rereads style v := by
  have hwhole := allDigits_splitWhole (splitMinus s).2
  unfold readNumber at h
  dsimp only at h
  split at h
  · cases h
  · next whole rest' heq =>
      rw [heq] at hwhole
      split at h
      · obtain ⟨n, hn, heq⟩ := map_eq_ok h
        cases heq
        exact rereads_integer hwhole hn
      · cases h
        exact readsBack_float style

theorem rereads_word (h : readWord? s = some (v, rest)) : Rereads style v := by
  obtain ⟨⟨word, w⟩, hmem, hword⟩ := List.exists_of_findSome?_eq_some h
  obtain ⟨after, -, heq⟩ := Option.map_eq_some_iff.mp hword
  cases heq
  simp only [words, List.mem_cons, List.not_mem_nil, or_false, Prod.mk.injEq] at hmem
  rcases hmem with ⟨-, rfl⟩ | ⟨-, rfl⟩ | ⟨-, rfl⟩ | ⟨-, rfl⟩ | ⟨-, rfl⟩ | ⟨-, rfl⟩
  · exact fun _ => readsBack_null style
  · exact fun _ => readsBack_bool style true
  · exact fun _ => readsBack_bool style false
  · exact fun hfinite => absurd hfinite (by decide)
  · exact fun hfinite => absurd hfinite (by decide)
  · exact fun hfinite => absurd hfinite (by decide)

/-- In what is left of a text without surrogates there are none. -/
theorem LeavesEnd.encodable {α : Type} {step : Step α} (h : LeavesEnd step) {a : α}
    (hs : s.Encodable) (hread : step s = .ok (a, rest)) : rest.Encodable :=
  .of_subset (h _ _ _ hread).subset hs

theorem isPlain_of_readPieces {start : Nat} {pieces : List Piece} (hs : s.Encodable)
    (h : readPieces start s = .ok (pieces, rest)) : ∀ p ∈ pieces, p.IsPlain := by
  fun_induction readPieces start s generalizing pieces rest with
  | case1 => cases h
  | case2 rest =>
      cases h
      exact List.forall_mem_nil _
  | case3 => cases h
  | case4 => cases h
  | case5 a b c d e rest' n hn ih =>
      obtain ⟨⟨more, after⟩, hmore, heq⟩ := bind_eq_ok_iff.mp h
      cases heq
      have hrest : Text.Encodable (e :: rest') := hs.tail.tail.tail.tail.tail.tail
      exact List.forall_mem_cons.mpr ⟨trivial, ih hrest hmore⟩
  | case6 => cases h
  | case7 => cases h
  | case8 c rest' _ _ x hx ih =>
      obtain ⟨⟨more, after⟩, hmore, heq⟩ := bind_eq_ok_iff.mp h
      cases heq
      exact List.forall_mem_cons.mpr ⟨rfl, ih hs.tail.tail hmore⟩
  | case9 => cases h
  | case10 c rest' _ _ _ _ _ _ ih =>
      obtain ⟨⟨more, after⟩, hmore, heq⟩ := bind_eq_ok_iff.mp h
      cases heq
      exact List.forall_mem_cons.mpr ⟨hs.head, ih hs.tail hmore⟩

/-- What is read of a string without surrogates stays as it is when it is sent: halves that stand
in escapes next to each other are joined already. -/
theorem joined_of_readString {t : Text} (hs : s.Encodable) (h : readString s = .ok (t, rest)) :
    t.joined = t := by
  obtain ⟨⟨pieces, after⟩, hpieces, heq⟩ := bind_eq_ok_iff.mp h
  cases heq
  rw [joinPieces_of_isPlain (isPlain_of_readPieces hs hpieces)]
  exact Text.joined_joinHalves _

theorem joined_of_readName (hs : s.Encodable) (h : readName s = .ok (name, rest)) :
    name.joined = name := by
  unfold readName at h
  split at h
  · obtain ⟨⟨t, after⟩, ht, h⟩ := bind_eq_ok_iff.mp h
    dsimp only at h
    split at h
    · cases h
      exact joined_of_readString hs.tail ht
    · cases h
  · cases h

/-- With so many steps, whatever is read of a text without surrogates reads back. -/
structure StepsReread (style : Style) (fuel : Nat) : Prop where
  value : ∀ {s v rest}, s.Encodable → readValue fuel s = .ok (v, rest) → Rereads style v
  items : ∀ {s items rest}, s.Encodable → readItems fuel s = .ok (items, rest) →
    ∀ v ∈ items, Rereads style v
  fields : ∀ {before s fields rest}, s.Encodable → FieldsRead style before →
    readFields fuel before s = .ok (fields, rest) → FieldsRead style fields

theorem fieldsRead_nil : FieldsRead style [] := ⟨.nil, nofun, nofun⟩

/-- What blanks were taken off has no surrogate either. -/
theorem encodable_skip (hs : s.Encodable) : (skip s).Encodable :=
  .of_subset (skip_suffix s).subset hs

namespace StepsReread

theorem readValue (hstyle : style.IsStandard) (h : StepsReread style fuel) (hs : s.Encodable)
    (hread : readValue (fuel + 1) s = .ok (v, rest)) : Rereads style v := by
  unfold Json.readValue at hread
  split at hread
  · cases hread
  · cases hread
  · obtain ⟨⟨t, after⟩, ht, hv⟩ := bind_eq_ok_iff.mp hread
    cases hv
    exact fun _ => readsBack_text_of_joined style (joined_of_readString hs.tail ht)
  · next hfuel =>
      obtain rfl := Nat.succ.inj hfuel
      split at hread
      · cases hread
        exact fun _ => readsBack_array hstyle .nil
      · obtain ⟨⟨items, after⟩, hitems, hv⟩ := bind_eq_ok_iff.mp hread
        cases hv
        have hitems := h.items (encodable_skip hs.tail) hitems
        exact fun hfinite => readsBack_array hstyle (readsBack_items hitems hfinite)
  · next hfuel =>
      obtain rfl := Nat.succ.inj hfuel
      split at hread
      · cases hread
        exact fun _ => readsBack_object hstyle .nil .nil
      · obtain ⟨⟨fields, after⟩, hfields, hv⟩ := bind_eq_ok_iff.mp hread
        cases hv
        have hfields := h.fields (encodable_skip hs.tail) fieldsRead_nil hfields
        exact fun hfinite =>
          readsBack_object hstyle (hfields.readsBack hfinite) hfields.distinct
  · split at hread
    · next hword =>
        cases hread
        exact rereads_word hword
    · exact rereads_number hread

theorem readItems (h : StepsReread style fuel) (hs : s.Encodable)
    (hread : readItems (fuel + 1) s = .ok (items, rest)) : ∀ v ∈ items, Rereads style v := by
  unfold Json.readItems at hread
  obtain ⟨⟨item, after⟩, hitem, hread⟩ := bind_eq_ok_iff.mp hread
  have hfirst := h.value hs hitem
  have hafter := encodable_skip ((stepsLeaveEnd fuel).value.encodable hs hitem)
  dsimp only at hread
  split at hread
  · cases hread
    simpa using hfirst
  · next behind hskip =>
      rw [hskip] at hafter
      obtain ⟨⟨more, _⟩, hmore, heq⟩ := bind_eq_ok_iff.mp hread
      cases heq
      exact List.forall_mem_cons.mpr ⟨hfirst, h.items (encodable_skip hafter.tail) hmore⟩
  · cases hread

theorem readFields {before : List (Text × Value)} (h : StepsReread style fuel) (hs : s.Encodable)
    (hbefore : FieldsRead style before)
    (hread : readFields (fuel + 1) before s = .ok (fields, rest)) : FieldsRead style fields := by
  unfold Json.readFields at hread
  obtain ⟨⟨name, inside⟩, hname, hread⟩ := bind_eq_ok_iff.mp hread
  obtain ⟨⟨v, after⟩, hv, hread⟩ := bind_eq_ok_iff.mp hread
  have hinside := leavesEnd_readName.encodable hs hname
  have hafter := encodable_skip ((stepsLeaveEnd fuel).value.encodable hinside hv)
  have hput := hbefore.setField (joined_of_readName hs hname) (h.value hinside hv)
  dsimp only at hread
  split at hread
  · cases hread
    exact hput
  · next behind hskip =>
      rw [hskip] at hafter
      exact h.fields (encodable_skip hafter.tail) hput hread
  · cases hread

end StepsReread

theorem exists_readValue_of_read {document : Text} (h : read document = .ok v) :
    ∃ fuel rest, readValue fuel (skip document) = .ok (v, rest) := by
  have hdocument : ∀ s, readDocument s = .ok v →
      ∃ fuel rest, readValue fuel (skip s) = .ok (v, rest) := by
    intro s hs
    unfold readDocument at hs
    split at hs
    · next htext =>
        cases hs
        obtain ⟨⟨w, rest⟩, hw, hend⟩ := bind_eq_ok_iff.mp htext
        dsimp only at hend
        split at hend
        · cases hend
          exact ⟨_, _, hw⟩
        · cases hend
    · cases hs
    · cases hs
  unfold read at h
  split at h
  · split at h
    · cases h
    · exact hdocument _ h
  · exact hdocument _ h

/-- Whatever stands behind its brace, a document that starts like an object holds none but an
object. -/
theorem exists_fields_of_read_write (h : read (write style (.object fields)) = .ok v) :
    ∃ gs, v = .object gs := by
  obtain ⟨t, ht⟩ : ∃ t, write style (.object fields) = .char '\x7b' :: t := by
    cases fields with
    | nil => exact ⟨_, rfl⟩
    | cons f fields => exact ⟨_, rfl⟩
  obtain ⟨fuel, rest, hv⟩ := exists_readValue_of_read h
  rw [ht, skip_cons (by decide)] at hv
  cases fuel with
  | zero => cases hv
  | succ fuel =>
      rw [readValue] at hv
      split at hv
      · cases hv
        exact ⟨_, rfl⟩
      · obtain ⟨⟨gs, after⟩, -, heq⟩ := bind_eq_ok_iff.mp hv
        cases heq
        exact ⟨gs, rfl⟩

end MountainRange.Json
