import MountainRange.Proofs.Documents
set_option autoImplicit false

/-!
# What the reader leaves

Whatever the reader takes off a text, what it leaves is the end of the text.  So what holds of all
letters of a document holds of those that are still to be read at any time.
-/

namespace MountainRange.Json

/-- What a step leaves is the end of what it is given. -/
def LeavesEnd {α : Type} (step : Step α) : Prop :=
  ∀ s a rest, step s = .ok (a, rest) → rest <:+ s

/-! ## Blanks, words and numbers -/

theorem skip_suffix (s : Text) : skip s <:+ s := List.dropWhile_suffix _

theorem suffix_of_dropWord? {word s rest : Text} (h : dropWord? word s = some rest) :
    rest <:+ s := by
  fun_induction dropWord? word s with
  | case1 s =>
      cases h
      exact List.suffix_rfl
  | case2 => cases h
  | case3 word c s ih => exact (ih h).trans (List.suffix_cons c s)
  | case4 => cases h

theorem suffix_of_readWord? {s rest : Text} {v : Value} (h : readWord? s = some (v, rest)) :
    rest <:+ s := by
  obtain ⟨entry, -, hword⟩ := List.exists_of_findSome?_eq_some h
  obtain ⟨after, hafter, heq⟩ := Option.map_eq_some_iff.mp hword
  cases heq
  exact suffix_of_dropWord? hafter

theorem splitDigits_suffix (s : Text) : (splitDigits s).2 <:+ s := List.dropWhile_suffix _

theorem splitMinus_suffix (s : Text) : (splitMinus s).2 <:+ s := by
  unfold splitMinus
  split
  · exact List.suffix_cons _ _
  · exact List.suffix_rfl

theorem splitWhole_suffix (s : Text) : (splitWhole s).2 <:+ s := by
  unfold splitWhole
  split
  · exact List.suffix_cons _ _
  · exact splitDigits_suffix s

theorem splitFraction_suffix (s : Text) : (splitFraction s).2 <:+ s := by
  unfold splitFraction
  split
  · next rest =>
      split
      · exact List.suffix_rfl
      · exact (splitDigits_suffix rest).trans (List.suffix_cons _ rest)
  · exact List.suffix_rfl

theorem splitSign_suffix (s : Text) : (Text.Numeral.splitSign s).2 <:+ s := by
  unfold Text.Numeral.splitSign
  repeat' split
  all_goals first
    | exact List.suffix_rfl
    | exact List.suffix_cons _ _

theorem splitExponent_suffix (s : Text) : (splitExponent s).2 <:+ s := by
  unfold splitExponent
  split
  · exact List.suffix_rfl
  · next c rest =>
      have hsign := splitSign_suffix rest
      have hdigits := splitDigits_suffix (Text.Numeral.splitSign rest).2
      split
      · dsimp only
        split
        · exact List.suffix_rfl
        · next digits after heq =>
            rw [heq] at hdigits
            exact (hdigits.trans hsign).trans (List.suffix_cons c rest)
      · exact List.suffix_rfl

theorem leavesEnd_readNumber : LeavesEnd readNumber := by
  intro s v rest h
  have hminus := splitMinus_suffix s
  have hwhole := splitWhole_suffix (splitMinus s).2
  unfold readNumber at h
  dsimp only at h
  split at h
  · cases h
  · next whole after _ heq =>
      rw [heq] at hwhole
      have hend : (splitExponent (splitFraction after).2).2 <:+ s :=
        (splitExponent_suffix _).trans ((splitFraction_suffix after).trans (hwhole.trans hminus))
      split at h
      · obtain ⟨n, -, heq⟩ := map_eq_ok h
        cases heq
        exact hend
      · cases h
        exact hend

/-! ## Strings -/

theorem leavesEnd_readPieces (start : Nat) : LeavesEnd (readPieces start) := by
  intro s pieces rest h
  fun_induction readPieces start s generalizing pieces rest with
  | case1 => cases h
  | case2 rest =>
      cases h
      exact List.suffix_cons _ _
  | case3 => cases h
  | case4 => cases h
  | case5 a b c d e rest' n hn ih =>
      obtain ⟨⟨more, after⟩, hmore, heq⟩ := bind_eq_ok_iff.mp h
      cases heq
      exact (ih _ _ hmore).trans ⟨[.char '\\', .char 'u', a, b, c, d], rfl⟩
  | case6 => cases h
  | case7 => cases h
  | case8 c rest' hrest hu x hx ih =>
      obtain ⟨⟨more, after⟩, hmore, heq⟩ := bind_eq_ok_iff.mp h
      cases heq
      exact (ih _ _ hmore).trans ⟨[.char '\\', c], rfl⟩
  | case9 => cases h
  | case10 c rest' _ _ _ _ _ _ ih =>
      obtain ⟨⟨more, after⟩, hmore, heq⟩ := bind_eq_ok_iff.mp h
      cases heq
      exact (ih _ _ hmore).trans (List.suffix_cons c rest')

theorem leavesEnd_readString : LeavesEnd readString := by
  intro s t rest h
  obtain ⟨⟨pieces, after⟩, hpieces, heq⟩ := bind_eq_ok_iff.mp h
  cases heq
  exact leavesEnd_readPieces _ s pieces _ hpieces

theorem leavesEnd_readName : LeavesEnd readName := by
  intro s name rest h
  unfold readName at h
  split at h
  · obtain ⟨⟨t, after⟩, ht, h⟩ := bind_eq_ok_iff.mp h
    have hafter := leavesEnd_readString _ _ _ ht
    have hskip := skip_suffix after
    dsimp only at h
    split at h
    · next behind heq =>
        cases h
        rw [heq] at hskip
        have hbehind := (List.suffix_cons _ behind).trans hskip
        exact ((skip_suffix behind).trans hbehind).trans (hafter.trans (List.suffix_cons _ _))
    · cases h
  · cases h

/-! ## Values -/

/-- With so many steps, values, items and fields leave the end of what there was. -/
structure StepsLeaveEnd (fuel : Nat) : Prop where
  value : LeavesEnd (readValue fuel)
  items : LeavesEnd (readItems fuel)
  fields : ∀ before, LeavesEnd (readFields fuel before)

/-- What stands behind a mark that was skipped to is the end of the text as well. -/
theorem suffix_of_skip_eq {s rest : Text} {c : Letter} (h : skip s = c :: rest) : rest <:+ s :=
  (List.suffix_cons c rest).trans (h ▸ skip_suffix s)

namespace StepsLeaveEnd

variable {fuel : Nat}

theorem readValue (h : StepsLeaveEnd fuel) : LeavesEnd (readValue (fuel + 1)) := by
  intro s v rest hread
  unfold Json.readValue at hread
  split at hread
  · cases hread
  · cases hread
  · obtain ⟨⟨t, after⟩, ht, heq⟩ := bind_eq_ok_iff.mp hread
    cases heq
    exact (leavesEnd_readString _ _ _ ht).trans (List.suffix_cons _ _)
  · next inside hfuel =>
      obtain rfl := Nat.succ.inj hfuel
      split at hread
      · next hskip =>
          cases hread
          exact (suffix_of_skip_eq hskip).trans (List.suffix_cons _ _)
      · obtain ⟨⟨items, after⟩, hitems, heq⟩ := bind_eq_ok_iff.mp hread
        cases heq
        exact ((h.items _ _ _ hitems).trans (skip_suffix inside)).trans (List.suffix_cons _ _)
  · next inside hfuel =>
      obtain rfl := Nat.succ.inj hfuel
      split at hread
      · next hskip =>
          cases hread
          exact (suffix_of_skip_eq hskip).trans (List.suffix_cons _ _)
      · obtain ⟨⟨fields, after⟩, hfields, heq⟩ := bind_eq_ok_iff.mp hread
        cases heq
        exact ((h.fields _ _ _ _ hfields).trans (skip_suffix inside)).trans (List.suffix_cons _ _)
  · split at hread
    · next hword =>
        cases hread
        exact suffix_of_readWord? hword
    · exact leavesEnd_readNumber _ _ _ hread

theorem readItems (h : StepsLeaveEnd fuel) : LeavesEnd (readItems (fuel + 1)) := by
  intro s items rest hread
  unfold Json.readItems at hread
  obtain ⟨⟨item, after⟩, hitem, hread⟩ := bind_eq_ok_iff.mp hread
  have hafter := h.value _ _ _ hitem
  dsimp only at hread
  split at hread
  · next hskip =>
      cases hread
      exact (suffix_of_skip_eq hskip).trans hafter
  · next behind hskip =>
      obtain ⟨⟨more, end'⟩, hmore, heq⟩ := bind_eq_ok_iff.mp hread
      cases heq
      have hbehind := (skip_suffix behind).trans (suffix_of_skip_eq hskip)
      exact ((h.items _ _ _ hmore).trans hbehind).trans hafter
  · cases hread

theorem readFields (h : StepsLeaveEnd fuel) (before : List (Text × Value)) :
    LeavesEnd (readFields (fuel + 1) before) := by
  intro s fields rest hread
  unfold Json.readFields at hread
  obtain ⟨⟨name, inside⟩, hname, hread⟩ := bind_eq_ok_iff.mp hread
  obtain ⟨⟨v, after⟩, hv, hread⟩ := bind_eq_ok_iff.mp hread
  have hafter := (h.value _ _ _ hv).trans (leavesEnd_readName _ _ _ hname)
  dsimp only at hread
  split at hread
  · next hskip =>
      cases hread
      exact (suffix_of_skip_eq hskip).trans hafter
  · next behind hskip =>
      have hbehind := (skip_suffix behind).trans (suffix_of_skip_eq hskip)
      exact ((h.fields _ _ _ _ hread).trans hbehind).trans hafter
  · cases hread

end StepsLeaveEnd

theorem stepsLeaveEnd (fuel : Nat) : StepsLeaveEnd fuel := by
  induction fuel with
  | zero =>
      refine ⟨fun s v rest h => ?_, nofun, nofun⟩
      unfold readValue at h
      cases h
  | succ fuel ih => exact ⟨ih.readValue, ih.readItems, ih.readFields⟩

end MountainRange.Json
