import MountainRange.Proofs.PerfectTree
set_option autoImplicit false

/-!
# Leaves of a spine

Bagging builds a spine over the mountains.  A way down that spine which is as long as the
first mountain is high, and turns as the way to one of its leaves does, can end at a leaf
of a mountain behind.  Whether it does is told by the numbers of the two places.
-/

namespace MountainRange

/-- The way down from the peak of a mountain to a place in it, gone from the bag of that
mountain and those behind it, leads to another place: to the right past every mountain in
front of it, to the left unless it is the last of `count`, then down inside it. -/
structure Location.LeadsTo (place shown : Location) (count : Nat) : Prop where
  not_in_front : place.mountain ≤ shown.mountain
  height_eq : place.mountain + place.height = min (shown.mountain + 1) (count - 1) + shown.height
  position_eq : place.position + 2 ^ (place.height - (shown.mountain - place.mountain)) =
    2 ^ place.height + shown.position

namespace Location.LeadsTo

variable {place shown : Location} {depth index count mountain height position : Nat}

/-- The way into the first mountain. -/
theorem zero_iff : LeadsTo ⟨0, depth, index⟩ ⟨0, height, position⟩ count ↔
    depth = min 1 (count - 1) + height ∧ index = position := by
  constructor
  · rintro ⟨_, hdepth, hindex⟩
    simp only [Nat.sub_zero, Nat.zero_add] at hdepth hindex
    exact ⟨hdepth, by omega⟩
  · rintro ⟨hdepth, rfl⟩
    exact ⟨Nat.le_refl 0, (Nat.zero_add depth).trans hdepth, Nat.add_comm index _⟩

/-- Past the first mountain the way goes to the right, and on from the bag of the others. -/
theorem succ_iff (hcount : 0 < count) :
    LeadsTo ⟨0, depth + 1, index⟩ ⟨mountain + 1, height, position⟩ (count + 1) ↔
      2 ^ depth ≤ index ∧
        LeadsTo ⟨0, depth, index - 2 ^ depth⟩ ⟨mountain, height, position⟩ count := by
  have hle : 2 ^ (depth - mountain) ≤ 2 ^ depth :=
    Nat.pow_le_pow_right (by decide) (Nat.sub_le depth mountain)
  constructor
  · rintro ⟨_, hdepth, hindex⟩
    simp only [Nat.sub_zero, Nat.add_sub_add_right, Nat.pow_succ] at hdepth hindex
    refine ⟨by omega, Nat.zero_le mountain, ?_, ?_⟩
    · simp only
      omega
    · simp only [Nat.sub_zero]
      omega
  · rintro ⟨hright, _, hdepth, hindex⟩
    simp only [Nat.sub_zero] at hdepth hindex
    refine ⟨Nat.zero_le _, ?_, ?_⟩
    · simp only
      omega
    · simp only [Nat.sub_zero, Nat.add_sub_add_right, Nat.pow_succ]
      omega

/-- Mountains in front do not change where a way leads. -/
theorem add_iff (mountain : Nat) (hcount : 0 < count) :
    LeadsTo ⟨mountain + place.mountain, place.height, place.position⟩
        ⟨mountain + shown.mountain, shown.height, shown.position⟩ (mountain + count) ↔
      LeadsTo place shown count := by
  constructor
  · rintro ⟨hfront, hheight, hposition⟩
    simp only [Nat.add_sub_add_left] at hfront hheight hposition
    exact ⟨by omega, by omega, hposition⟩
  · rintro ⟨hfront, hheight, hposition⟩
    refine ⟨Nat.add_le_add_left hfront mountain, ?_, ?_⟩
    · simp only
      omega
    · simp only [Nat.add_sub_add_left]
      exact hposition

/-- A way one level longer than its position asks for stays in the first mountain. -/
theorem mountain_eq_zero (h : LeadsTo ⟨0, depth + 1, index⟩ shown count)
    (hindex : index < 2 ^ depth) : shown.mountain = 0 := by
  have hposition := h.position_eq
  cases hmountain : shown.mountain with
  | zero => rfl
  | succ mountain =>
      have hle : 2 ^ (depth - mountain) ≤ 2 ^ depth :=
        Nat.pow_le_pow_right (by decide) (Nat.sub_le depth mountain)
      simp only [hmountain, Nat.sub_zero, Nat.add_sub_add_right, Nat.pow_succ] at hposition
      omega

/-- A way that stays in its mountain leads to its own position. -/
theorem position_of_mountain_eq (h : LeadsTo place shown count)
    (hmountain : shown.mountain = place.mountain) : shown.position = place.position := by
  have hposition := h.position_eq
  rw [hmountain, Nat.sub_self, Nat.sub_zero] at hposition
  omega

end Location.LeadsTo

/-! ## Leaves of a spine -/

namespace Tree

variable {D : Type} {t : Tree D} {rest : List (Tree D)} {depth index : Nat} {value : D}

/-- A leaf of a spine over perfect trees is a leaf of one of them, where the way down to it
leads. -/
theorem leadsTo_of_at?_spine (hperfect : ∀ u ∈ t :: rest, ∃ height, u.Perfect height)
    (hindex : index < 2 ^ depth) (h : (spine t rest).at? depth index = some (.leaf value)) :
    ∃ (shown : Location) (u : Tree D), (t :: rest)[shown.mountain]? = some u ∧
      u.Perfect shown.height ∧ u.leaves[shown.position]? = some value ∧
      Location.LeadsTo ⟨0, depth, index⟩ shown (rest.length + 1) := by
  induction rest generalizing t depth index with
  | nil =>
      obtain ⟨height, hfirst⟩ := hperfect t List.mem_cons_self
      obtain ⟨hheight, hvalue⟩ := hfirst.getElem?_of_at?_leaf h hindex
      refine ⟨⟨0, height, index⟩, t, rfl, hfirst, hvalue, Location.LeadsTo.zero_iff.mpr ?_⟩
      exact ⟨hheight.symm.trans (Nat.zero_add height).symm, rfl⟩
  | cons next rest ih =>
      cases depth with
      | zero => cases h
      | succ depth =>
          rw [spine, at?_node t (spine next rest) hindex] at h
          rw [Nat.pow_succ] at hindex
          by_cases hside : index < 2 ^ depth
          · rw [if_pos hside] at h
            obtain ⟨height, hfirst⟩ := hperfect t List.mem_cons_self
            obtain ⟨hheight, hvalue⟩ := hfirst.getElem?_of_at?_leaf h hside
            refine ⟨⟨0, height, index⟩, t, rfl, hfirst, hvalue, Location.LeadsTo.zero_iff.mpr ?_⟩
            rw [List.length_cons]
            omega
          · rw [if_neg hside] at h
            have hbehind : ∀ u ∈ next :: rest, ∃ height, u.Perfect height :=
              fun u hu => hperfect u (List.mem_cons_of_mem t hu)
            obtain ⟨⟨mountain, height, position⟩, u, hu, htall, hvalue, hleads⟩ :=
              ih hbehind (by omega) h
            exact ⟨⟨mountain + 1, height, position⟩, u, hu, htall, hvalue,
              (Location.LeadsTo.succ_iff (Nat.succ_pos _)).mpr ⟨by omega, hleads⟩⟩

/-- The way down a spine over perfect trees ends at the leaf that it leads to. -/
theorem at?_spine_of_leadsTo (shown : Location) {u : Tree D} (hindex : index < 2 ^ depth)
    (hu : (t :: rest)[shown.mountain]? = some u) (htall : u.Perfect shown.height)
    (hvalue : u.leaves[shown.position]? = some value)
    (hleads : Location.LeadsTo ⟨0, depth, index⟩ shown (rest.length + 1)) :
    (spine t rest).at? depth index = some (.leaf value) := by
  obtain ⟨mountain, height, position⟩ := shown
  have hposition : position < 2 ^ height := by
    rw [← htall.length_leaves]
    exact (List.getElem?_eq_some_iff.mp hvalue).1
  induction rest generalizing t mountain depth index with
  | nil =>
      cases mountain with
      | zero =>
          cases hu
          obtain ⟨hdepth, rfl⟩ := Location.LeadsTo.zero_iff.mp hleads
          obtain rfl : depth = height := by simpa using hdepth
          exact htall.at?_of_getElem? hvalue
      | succ mountain => cases hu
  | cons next rest ih =>
      cases mountain with
      | zero =>
          cases hu
          obtain ⟨hdepth, rfl⟩ := Location.LeadsTo.zero_iff.mp hleads
          obtain rfl : depth = height + 1 := by
            rw [List.length_cons] at hdepth
            omega
          rw [spine, at?_node _ _ hindex, if_pos hposition]
          exact htall.at?_of_getElem? hvalue
      | succ mountain =>
          cases depth with
          | zero =>
              have hzero := hleads.height_eq
              simp only [List.length_cons] at hzero
              omega
          | succ depth =>
              obtain ⟨hright, hbehind⟩ := (Location.LeadsTo.succ_iff (Nat.succ_pos _)).mp hleads
              rw [spine, at?_node _ _ hindex, if_neg (Nat.not_lt_of_le hright)]
              rw [Nat.pow_succ] at hindex
              exact ih (by omega) mountain hu htall hvalue hbehind

end Tree

end MountainRange
