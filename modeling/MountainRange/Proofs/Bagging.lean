import MountainRange.Proofs.CheckedOperations
set_option autoImplicit false

/-!
# What a bag tells of its peaks

Bagging hashes every peak in front of what the peaks behind it came to.  The peaks from some place
on may therefore be replaced by their bag, which then stands as the last peak; and apart from
collisions this is all that a bag leaves open.  Of peaks whose number is known it leaves open
nothing, which is why the verifier counts them.
-/

namespace MountainRange

namespace Scheme

variable {D : Type} (S : Scheme D)

/-- The hash calls that bagging makes, latest first. -/
def baggingCalls (peaks : List D) : List (HashCall D) :=
  (Peak.bag S.recording.pair S.recording.zero peaks []).2

theorem baggingCalls_eq (peaks : List D) : S.baggingCalls peaks = S.bagCalls peaks := by
  rw [baggingCalls, S.records_bag peaks [], List.append_nil]

/-- Some peaks are those of a longer list, but that those from some place on are one, their bag. -/
def Regroups (fewer more : List D) : Prop :=
  ∃ front back, back ≠ [] ∧ more = front ++ back ∧ fewer = front ++ [S.bag back]

variable {S} {fewer more : List D}

theorem Regroups.bag_eq (h : S.Regroups fewer more) : S.bag fewer = S.bag more := by
  obtain ⟨front, back, hback, rfl, rfl⟩ := h
  have hplace : front.length < (front ++ back).length := by
    have hpos := List.length_pos_iff.mpr hback
    rw [List.length_append]
    omega
  have hregroup := S.bag_regroup hplace
  rwa [List.take_left, List.drop_left] at hregroup

/-- Peaks that are regrouped into as many are left as they are. -/
theorem Regroups.eq_of_length (h : S.Regroups fewer more) (hlength : fewer.length = more.length) :
    fewer = more := by
  obtain ⟨front, back, hback, rfl, rfl⟩ := h
  have hone : back.length = 1 := by
    rw [List.length_append, List.length_append, List.length_singleton] at hlength
    omega
  obtain ⟨peak, rfl⟩ := List.length_eq_one_iff.mp hone
  rw [bag_singleton]

/-- Without collisions the shorter of two lists with one bag is a regrouping of the longer. -/
theorem regroups_of_bag_eq {calls : List (HashCall D)} (hfree : ¬S.PairCollision calls)
    (hfewer : fewer ≠ []) (hlength : fewer.length ≤ more.length) (h : S.bagCalls fewer ⊆ calls)
    (h' : S.bagCalls more ⊆ calls) (heq : S.bag fewer = S.bag more) : S.Regroups fewer more := by
  obtain ⟨front, last, rfl⟩ : ∃ front last, fewer = front ++ [last] :=
    ⟨_, _, (List.dropLast_concat_getLast hfewer).symm⟩
  rw [List.length_append, List.length_singleton] at hlength
  obtain ⟨htake, hdrop⟩ := bag_drop_eq (m := front.length) hfree h h' heq (by simp) hlength
  rw [List.take_left] at htake
  rw [List.drop_left, bag_singleton] at hdrop
  have hsplit := List.take_append_drop front.length more
  rw [← htake] at hsplit
  have hback : more.drop front.length ≠ [] := by
    rw [ne_eq, List.drop_eq_nil_iff]
    omega
  exact ⟨front, more.drop front.length, hback, hsplit.symm, by rw [hdrop]⟩

theorem regroups_or_collision (hfewer : fewer ≠ []) (hlength : fewer.length ≤ more.length)
    (heq : S.bag fewer = S.bag more) : S.Regroups fewer more ∨
      S.PairCollision (S.baggingCalls fewer ++ S.baggingCalls more) := by
  rw [baggingCalls_eq, baggingCalls_eq]
  by_cases hfree : S.PairCollision (S.bagCalls fewer ++ S.bagCalls more)
  · exact Or.inr hfree
  · exact Or.inl (regroups_of_bag_eq hfree hfewer hlength (List.subset_append_left _ _)
      (List.subset_append_right _ _) heq)

/-- Operands of one scheme are bagged alike exactly if their digests have one bag. -/
theorem checkedBag_eq_iff (hS : S.Faithful) :
    S.checkedBag (fewer.map S.operand) = S.checkedBag (more.map S.operand) ↔
      S.bag fewer = S.bag more := by
  rw [checkedBag_operands hS, checkedBag_operands hS]
  exact ⟨fun h => hS.operand_inj (Except.ok.inj h), fun h => by rw [h]⟩

end Scheme

namespace Mode

/-- Digests of a scheme are bagged without refusal.  Peaks are bagged as when those from some place
on are bagged first and stand as the last.  Conversely the shorter of two lists with one bag are
peaks of the longer with those from some place on bagged, and as many peaks with one bag are the
same peaks, or the two bags hash two different pairs to one digest. -/
theorem bag_tells_peaks (mode : Mode) :
    let S := mode.scheme
    (∀ front back : List mode.Form, back ≠ [] → ∃ tail whole,
        S.checkedBag (back.map S.operand) = .ok (S.operand tail) ∧
        S.checkedBag ((front ++ back).map S.operand) = .ok (S.operand whole) ∧
        S.checkedBag ((front ++ [tail]).map S.operand) = .ok (S.operand whole)) ∧
      (∀ peaks peaks' : List mode.Form, peaks ≠ [] → peaks.length = peaks'.length →
        S.checkedBag (peaks.map S.operand) = S.checkedBag (peaks'.map S.operand) →
        peaks = peaks' ∨ S.PairCollision (S.baggingCalls peaks ++ S.baggingCalls peaks')) ∧
      ∀ fewer more : List mode.Form, fewer ≠ [] → fewer.length ≤ more.length →
        S.checkedBag (fewer.map S.operand) = S.checkedBag (more.map S.operand) →
        (∃ front back tail, back ≠ [] ∧ more = front ++ back ∧ fewer = front ++ [tail] ∧
            S.checkedBag (back.map S.operand) = .ok (S.operand tail)) ∨
          S.PairCollision (S.baggingCalls fewer ++ S.baggingCalls more) := by
  intro S
  have hbag := Scheme.checkedBag_operands mode.faithful
  refine ⟨fun front back hback => ?_, fun peaks peaks' hpeaks hlength heq => ?_,
    fun fewer more hfewer hlength heq => ?_⟩
  · have hregroup : S.Regroups (front ++ [S.bag back]) (front ++ back) :=
      ⟨front, back, hback, rfl, rfl⟩
    refine ⟨S.bag back, S.bag (front ++ back), hbag back, hbag (front ++ back), ?_⟩
    rw [hbag, hregroup.bag_eq]
  · have hsame := (Scheme.checkedBag_eq_iff mode.faithful).mp heq
    exact (Scheme.regroups_or_collision hpeaks (Nat.le_of_eq hlength) hsame).imp_left
      fun hregroup => hregroup.eq_of_length hlength
  · have hsame := (Scheme.checkedBag_eq_iff mode.faithful).mp heq
    refine (Scheme.regroups_or_collision hfewer hlength hsame).imp_left ?_
    rintro ⟨front, back, hback, hmore, hregrouped⟩
    exact ⟨front, back, S.bag back, hback, hmore, hregrouped, hbag back⟩

/-- Three peaks, the last two of them bagged, and what these two are hashed to. -/
theorem bag_tells_peaks_last_two :
    let S := compact.scheme
    let a : compact.Form := ⟨5⟩
    let b : compact.Form := ⟨6⟩
    let c : compact.Form := ⟨7⟩
    let bagged := [a, S.bag [b, c]]
    let hashed := [a, S.pair b c]
    let all := [a, b, c]
    [b, c] ≠ [] ∧ (∃ tail whole, S.checkedBag ([b, c].map S.operand) = .ok (S.operand tail) ∧
        S.checkedBag (([a] ++ [b, c]).map S.operand) = .ok (S.operand whole) ∧
        S.checkedBag (([a] ++ [tail]).map S.operand) = .ok (S.operand whole)) ∧
      bagged ≠ [] ∧ bagged.length = hashed.length ∧
      S.checkedBag (bagged.map S.operand) = S.checkedBag (hashed.map S.operand) ∧
      (bagged = hashed ∨ S.PairCollision (S.baggingCalls bagged ++ S.baggingCalls hashed)) ∧
      bagged.length ≤ all.length ∧
      S.checkedBag (bagged.map S.operand) = S.checkedBag (all.map S.operand) ∧
      ((∃ front back tail, back ≠ [] ∧ all = front ++ back ∧ bagged = front ++ [tail] ∧
          S.checkedBag (back.map S.operand) = .ok (S.operand tail)) ∨
        S.PairCollision (S.baggingCalls bagged ++ S.baggingCalls all)) := by
  intro S a b c bagged hashed all
  obtain ⟨hregroup, hequal, hshorter⟩ := compact.bag_tells_peaks
  have hne : [b, c] ≠ [] := List.cons_ne_nil b [c]
  have hbagged : bagged ≠ [] := List.cons_ne_nil a _
  have hsame : S.checkedBag (bagged.map S.operand) = S.checkedBag (hashed.map S.operand) := rfl
  have hregrouped : S.Regroups bagged all := ⟨[a], [b, c], hne, rfl, rfl⟩
  have hall : S.checkedBag (bagged.map S.operand) = S.checkedBag (all.map S.operand) :=
    (Scheme.checkedBag_eq_iff compact.faithful).mpr hregrouped.bag_eq
  have hlength : bagged.length ≤ all.length := Nat.le_succ 2
  exact ⟨hne, hregroup [a] [b, c] hne, hbagged, rfl, hsame,
    hequal bagged hashed hbagged rfl hsame, hlength, hall, hshorter bagged all hbagged hlength hall⟩

end Mode

end MountainRange
