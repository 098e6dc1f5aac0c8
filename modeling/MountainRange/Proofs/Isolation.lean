import Mathlib.Algebra.Ring.Int.Defs
import MountainRange.Proofs.Grammar
import MountainRange.Proofs.Payloads
set_option autoImplicit false

/-!
# Nothing foreign is hashed

An operation of a scheme refuses its operands exactly if one of them is no digest of the scheme,
at whatever place it stands, and names what it found there.  Otherwise the result is a digest of
the scheme, too.  A climb and a bag meet their operands one by one, so the result of every level
has to be known as the scheme's own before the next operand is looked at.
-/

namespace MountainRange

/-- An operand is a digest of a mode. -/
def Operand.IsOf (mode : Mode) : Operand → Prop
  | .digest (.wide _) => mode = .wide
  | .digest (.compact _) => mode = .compact
  | .other _ => False

instance (mode : Mode) : DecidablePred (Operand.IsOf mode)
  | .digest (.wide _) => inferInstanceAs (Decidable (_ = _))
  | .digest (.compact _) => inferInstanceAs (Decidable (_ = _))
  | .other _ => inferInstanceAs (Decidable False)

/-- A result is a mismatch exactly if some operand is foreign.  Otherwise it is there, and it is
as it should be. -/
structure Isolates {ε α : Type} (mode : Mode) (operands : List Operand) (tell : SchemeError → ε)
    (Own : α → Prop) (result : Except ε α) : Prop where
  mismatch_iff : (∃ kind, result = .error (tell (.mismatch mode kind))) ↔
    ∃ x ∈ operands, ¬x.IsOf mode
  exists_ok : (¬∃ kind, result = .error (tell (.mismatch mode kind))) → ∃ a, result = .ok a ∧ Own a

/-- A step over operands keeps to a mode: either all of them are of the mode and so is the result,
or one of them is foreign and is told by its kind. -/
inductive KeepsTo {ε α : Type} (mode : Mode) (operands : List Operand) (tell : SchemeError → ε)
    (Own : α → Prop) : Except ε α → Prop
  | own {a : α} (all : ∀ x ∈ operands, x.IsOf mode) (ha : Own a) :
      KeepsTo mode operands tell Own (.ok a)
  | foreign {x : Operand} (hmem : x ∈ operands) (hx : ¬x.IsOf mode) :
      KeepsTo mode operands tell Own (.error (tell (.mismatch mode x.kind)))

/-! ## Steps -/

namespace KeepsTo

variable {ε α β : Type} {mode : Mode} {operands others : List Operand} {tell : SchemeError → ε}
variable {Own : α → Prop} {result : Except ε α}

theorem isolates (h : KeepsTo mode operands tell Own result) :
    Isolates mode operands tell Own result := by
  cases h with
  | own all ha =>
      refine ⟨⟨nofun, ?_⟩, fun _ => ⟨_, rfl, ha⟩⟩
      rintro ⟨x, hmem, hx⟩
      exact absurd (all x hmem) hx
  | foreign hmem hx => exact ⟨⟨fun _ => ⟨_, hmem, hx⟩, fun _ => ⟨_, rfl⟩⟩, fun h => absurd ⟨_, rfl⟩ h⟩

/-- Only the foreign operands matter. -/
theorem congr (h : KeepsTo mode operands tell Own result)
    (hsame : ∀ x, ¬x.IsOf mode → (x ∈ operands ↔ x ∈ others)) :
    KeepsTo mode others tell Own result := by
  cases h with
  | own all ha =>
      refine .own (fun x hx => ?_) ha
      by_contra hnot
      exact hnot (all x ((hsame x hnot).mpr hx))
  | foreign hmem hx => exact .foreign ((hsame _ hx).mp hmem) hx

/-- A step behind another one may count on what the first one came to. -/
theorem bind {Own' : β → Prop} {next : α → Except ε β}
    (h : KeepsTo mode operands tell Own result)
    (hnext : ∀ a, Own a → KeepsTo mode others tell Own' (next a)) :
    KeepsTo mode (operands ++ others) tell Own' (result >>= next) := by
  cases h with
  | @own a all ha =>
      show KeepsTo mode _ tell Own' (next a)
      have hsecond := hnext a ha
      generalize next a = second at hsecond
      cases hsecond with
      | own all' hb => exact .own (List.forall_mem_append.mpr ⟨all, all'⟩) hb
      | foreign hmem hx => exact .foreign (List.mem_append_right _ hmem) hx
  | foreign hmem hx => exact .foreign (List.mem_append_left _ hmem) hx

theorem pure {a : α} (ha : Own a) : KeepsTo mode [] tell Own (.ok a) := .own (by simp) ha

/-- Whatever is made at last of what was checked is not checked again. -/
theorem bind_pure {Own' : β → Prop} {f : α → β} (h : KeepsTo mode operands tell Own result)
    (hf : ∀ a, Own a → Own' (f a)) :
    KeepsTo mode operands tell Own' (result >>= fun a => .ok (f a)) := by
  cases h with
  | own all ha => exact .own all (hf _ ha)
  | foreign hmem hx => exact .foreign hmem hx

theorem mapError {result : Except SchemeError α} (h : KeepsTo mode operands id Own result) :
    KeepsTo mode operands tell Own (result.mapError tell) := by
  cases h with
  | own all ha => exact .own all ha
  | foreign hmem hx => exact .foreign hmem hx

end KeepsTo

namespace Mode

variable (mode : Mode)

theorem isOf_operand (d : mode.Form) : (mode.scheme.operand d).IsOf mode := by
  cases mode <;> rfl

/-- An operand is checked for being a digest of the mode. -/
theorem keepsTo_checkOne (x : Operand) :
    KeepsTo mode [x] id (fun d => x = mode.scheme.operand d) (mode.scheme.checkOne x) := by
  have hforeign (hx : ¬x.IsOf mode) (h : mode.scheme.checkOne x = .error (.mismatch mode x.kind)) :
      KeepsTo mode [x] id (fun d => x = mode.scheme.operand d) (mode.scheme.checkOne x) :=
    h ▸ .foreign (List.mem_singleton_self x) hx
  rcases x with (d | d) | v <;> cases mode
  case digest.wide.wide => exact .own (List.forall_mem_singleton.mpr rfl) rfl
  case digest.compact.compact => exact .own (List.forall_mem_singleton.mpr rfl) rfl
  all_goals exact hforeign nofun rfl

/-- Operands that are checked one after the other. -/
theorem keepsTo_mapM {ε : Type} {tell : SchemeError → ε} {check : Operand → Except ε mode.Form}
    (hcheck : ∀ x, KeepsTo mode [x] tell (fun d => x = mode.scheme.operand d) (check x))
    (operands : List Operand) :
    KeepsTo mode operands tell (fun ds => operands = ds.map mode.scheme.operand)
      (operands.mapM check) := by
  induction operands with
  | nil => exact .pure rfl
  | cons x operands ih =>
      rw [List.mapM_cons]
      refine (hcheck x).bind fun d hd => ih.bind_pure fun ds hds => ?_
      rw [List.map_cons, ← hd, ← hds]

/-! ## Operations -/

theorem keepsTo_check (operands : List Operand) :
    KeepsTo mode operands id (fun ds => operands = ds.map mode.scheme.operand)
      (mode.scheme.check operands) :=
  mode.keepsTo_mapM mode.keepsTo_checkOne operands

theorem keepsTo_checkedPair (left right : Operand) :
    KeepsTo mode [left, right] id (Operand.IsOf mode) (mode.scheme.checkedPair left right) :=
  (mode.keepsTo_checkOne left).bind fun _ _ =>
    (mode.keepsTo_checkOne right).bind_pure fun _ _ => mode.isOf_operand _

/-- A pair of which one is known to be of the mode already. -/
theorem keepsTo_checkedPair_own {known : Operand} (hknown : known.IsOf mode) (left right : Operand)
    {x : Operand} (h : ∀ y, y ∈ [left, right] ↔ y ∈ [known, x]) :
    KeepsTo mode [x] id (Operand.IsOf mode) (mode.scheme.checkedPair left right) := by
  refine (mode.keepsTo_checkedPair left right).congr fun y hy => ?_
  have hne : y ≠ known := fun heq => hy (heq ▸ hknown)
  rw [h, List.mem_pair, List.mem_singleton, or_iff_right hne]

section Climb

variable {I : Type} (isLeft : I → Bool) (parent : I → I) (index : I) {node : Operand}

/-- From a node of the mode a climb keeps to the mode on all its siblings. -/
theorem keepsTo_climb (hnode : node.IsOf mode) (siblings : List Operand) :
    KeepsTo mode siblings id (Operand.IsOf mode)
      (Peak.climb mode.scheme.checkedPair isLeft parent index node siblings) := by
  induction siblings generalizing index node with
  | nil => exact .pure hnode
  | cons sibling rest ih =>
      have hrest := fun above (habove : Operand.IsOf mode above) => ih (parent index) habove
      rw [Peak.climb]
      split
      · exact (mode.keepsTo_checkedPair_own hnode node sibling fun _ => Iff.rfl).bind hrest
      · have hpair := mode.keepsTo_checkedPair_own hnode sibling node (x := sibling)
          fun _ => by simp [or_comm]
        exact hpair.bind hrest

/-- With a sibling to be hashed with, the node at the foot is checked as well. -/
theorem keepsTo_climb_cons (node : Operand) {siblings : List Operand} (h : siblings ≠ []) :
    KeepsTo mode (node :: siblings) id (Operand.IsOf mode)
      (Peak.climb mode.scheme.checkedPair isLeft parent index node siblings) := by
  obtain ⟨sibling, rest, rfl⟩ := List.exists_cons_of_ne_nil h
  have hrest := fun above (habove : Operand.IsOf mode above) =>
    mode.keepsTo_climb isLeft parent (parent index) habove rest
  rw [Peak.climb]
  split
  · exact (mode.keepsTo_checkedPair node sibling).bind hrest
  · have hpair : KeepsTo mode [node, sibling] id (Operand.IsOf mode)
        (mode.scheme.checkedPair sibling node) :=
      (mode.keepsTo_checkedPair sibling node).congr fun _ _ => by simp [or_comm]
    exact hpair.bind hrest

end Climb

/-- A bag of two operands or more. -/
theorem keepsTo_checkedBag (peak next : Operand) (rest : List Operand) :
    KeepsTo mode (peak :: next :: rest) id (Operand.IsOf mode)
      (mode.scheme.checkedBag (peak :: next :: rest)) := by
  induction rest generalizing peak next with
  | nil => exact mode.keepsTo_checkedPair peak next
  | cons other rest ih =>
      have hall : KeepsTo mode ((next :: other :: rest) ++ [peak]) id (Operand.IsOf mode)
          (mode.scheme.checkedBag (peak :: next :: other :: rest)) :=
        (ih next other).bind fun bag hbag =>
          mode.keepsTo_checkedPair_own hbag peak bag fun _ => by simp [or_comm]
      refine hall.congr fun x _ => ?_
      rw [List.mem_append, List.mem_singleton, or_comm, ← List.mem_cons]

/-- The root of operands for a size of 64 bits. -/
theorem keepsTo_checkedRoot (peaks : List Operand) (size : UInt64) :
    KeepsTo mode peaks id (Operand.IsOf mode)
      (mode.scheme.checkedRoot peaks (.int size.toNat)) := by
  rw [Scheme.checkedRoot, mode.faithful.embedValue]
  exact (mode.keepsTo_check peaks).bind_pure fun _ _ => mode.isOf_operand _

end Mode

/-! ## Drafts -/

namespace Draft

/-- The operands of a draft, in the order in which they are checked. -/
def operands (draft : Draft) : List Operand :=
  draft.root :: draft.leaf :: (draft.siblings ++ draft.peaks)

/-- A request has the parts of a draft. -/
structure Makes (draft : Draft) (r : Request) : Prop where
  root : draft.root = .digest r.root
  leaf : draft.leaf = .digest r.leaf
  leafIndex : draft.leafIndex = .int r.leafIndex.toNat
  size : draft.size = .int r.size.toNat
  siblings : draft.siblings = r.siblings.map .digest
  peaks : draft.peaks = r.peaks.map .digest

end Draft

namespace Mode

variable (mode : Mode)

theorem makes_request {draft : Draft} {proof : Inclusion mode.Form}
    (hroot : draft.root = mode.scheme.operand proof.root)
    (hleaf : draft.leaf = mode.scheme.operand proof.leaf)
    (hindex : draft.leafIndex = .int proof.leafIndex.toNat)
    (hsize : draft.size = .int proof.size.toNat)
    (hsiblings : draft.siblings = proof.siblings.map mode.scheme.operand)
    (hpeaks : draft.peaks = proof.peaks.map mode.scheme.operand) :
    draft.Makes (mode.request proof) where
  root := hroot.trans (mode.root_operand proof).symm
  leaf := hleaf.trans (mode.leaf_operand proof).symm
  leafIndex := by cases mode <;> exact hindex
  size := by cases mode <;> exact hsize
  siblings := hsiblings.trans (mode.siblings_operands proof).symm
  peaks := hpeaks.trans (mode.peaks_operands proof).symm

/-- With numbers of 64 bits only the digests of a draft can be refused. -/
theorem keepsTo_toRequest {draft : Draft} (hmode : ofValue? draft.mode = .ok mode)
    {leafIndex size : UInt64} (hindex : draft.leafIndex = .int leafIndex.toNat)
    (hsize : draft.size = .int size.toNat) :
    KeepsTo mode draft.operands .scheme (fun r => r.mode = mode ∧ draft.Makes r)
      draft.toRequest := by
  have hdigest (x : Operand) : KeepsTo mode [x] .scheme (fun d => x = mode.scheme.operand d)
      (digestOf mode.scheme x) := (mode.keepsTo_checkOne x).mapError
  have hcheck : draft.toRequest = mode.request <$> draft.check mode.scheme := by
    rw [Draft.toRequest, hmode]
    cases mode <;> rfl
  have hnumbers : draft.check mode.scheme = (do
      let root ← digestOf mode.scheme draft.root
      let leaf ← digestOf mode.scheme draft.leaf
      let siblings ← draft.siblings.mapM (digestOf mode.scheme)
      let peaks ← draft.peaks.mapM (digestOf mode.scheme)
      return { root, leaf, leafIndex, size, siblings, peaks }) := by
    rw [Draft.check, hindex, hsize, Service.word?_toNat, Service.word?_toNat]
    rfl
  rw [hcheck, hnumbers]
  simp only [map_bind]
  refine (hdigest draft.root).bind fun root hroot => ?_
  refine (hdigest draft.leaf).bind fun leaf hleaf => ?_
  refine (mode.keepsTo_mapM hdigest draft.siblings).bind fun siblings hsiblings => ?_
  refine (mode.keepsTo_mapM hdigest draft.peaks).bind_pure fun peaks hpeaks => ?_
  exact ⟨mode.mode_request _, mode.makes_request hroot hleaf hindex hsize hsiblings hpeaks⟩

/-- An integer of 64 bits. -/
theorem exists_word {n : Int} (h : 0 ≤ n ∧ n < 2 ^ 64) : ∃ w : UInt64, n = w.toNat := by
  have hlt : n.toNat < UInt64.size := by
    show n.toNat < 2 ^ 64
    omega
  refine ⟨UInt64.ofNat n.toNat, ?_⟩
  rw [UInt64.toNat_ofNat_of_lt' hlt]
  omega

/-- The root of any operands, a climb along any siblings, a bag of two operands or more and the
request of a draft are refused as a mismatch exactly if some operand that goes into them is no
digest of the scheme, be it one of the other scheme or no digest at all.  Otherwise there is a
result: a digest of the scheme, or a request under it that has the parts of the draft. -/
theorem operations_isolate (mode : Mode) :
    (∀ (peaks : List Operand) (size : Int), 0 ≤ size ∧ size < 2 ^ 64 →
        Isolates mode peaks id (Operand.IsOf mode)
          (mode.scheme.checkedRoot peaks (.int size))) ∧
      (∀ (convention : Convention) (index : Int) (leaf : Operand) (siblings : List Operand),
        siblings ≠ [] → Isolates mode (leaf :: siblings) id (Operand.IsOf mode)
          (mode.scheme.checkedClimb convention (.int index) leaf siblings)) ∧
      (∀ peaks : List Operand, 2 ≤ peaks.length →
        Isolates mode peaks id (Operand.IsOf mode) (mode.scheme.checkedBag peaks)) ∧
      ∀ (draft : Draft) (leafIndex size : Int), ofValue? draft.mode = .ok mode →
        draft.leafIndex = .int leafIndex → 0 ≤ leafIndex ∧ leafIndex < 2 ^ 64 →
        draft.size = .int size → 0 ≤ size ∧ size < 2 ^ 64 →
        Isolates mode draft.operands .scheme (fun r => r.mode = mode ∧ draft.Makes r)
          draft.toRequest := by
  refine ⟨fun peaks size hsize => ?_, fun convention index leaf siblings hne => ?_,
    fun peaks hpeaks => ?_, fun draft leafIndex size hmode hindex hindexLt hsize hsizeLt => ?_⟩
  · obtain ⟨size, rfl⟩ := exists_word hsize
    exact (mode.keepsTo_checkedRoot peaks size).isolates
  · exact (mode.keepsTo_climb_cons convention.isLeftAt convention.parentAt (.int index) leaf
      hne).isolates
  · obtain ⟨peak, next, rest, rfl⟩ : ∃ peak next rest, peaks = peak :: next :: rest := by
      match peaks, hpeaks with
      | peak :: next :: rest, _ => exact ⟨peak, next, rest, rfl⟩
    exact (mode.keepsTo_checkedBag peak next rest).isolates
  · obtain ⟨leafIndex, rfl⟩ := exists_word hindexLt
    obtain ⟨size, rfl⟩ := exists_word hsizeLt
    exact (mode.keepsTo_toRequest hmode hindex hsize).isolates

/-- A wide digest, a compact one and a number: the compact one is refused among peaks of the wide
scheme, at the foot of a climb and as the last peak of a draft, the number in a bag; and a climb of
two wide digests ends in a wide one. -/
theorem operations_isolate_mixed :
    let wide : Operand := .digest (.wide ⟨1, 2⟩)
    let compact : Operand := .digest (.compact ⟨3⟩)
    let number : Operand := .other (.int 4)
    let draft : Draft := ⟨.int 1, wide, wide, .int 0, .int 3, [wide], [wide, compact]⟩
    (∃ kind, Mode.wide.scheme.checkedRoot [wide, compact] (.int 3) =
        .error (.mismatch .wide kind)) ∧
      (∃ kind, Mode.wide.scheme.checkedClimb .oddIsLeft (.int 3) compact [wide] =
        .error (.mismatch .wide kind)) ∧
      (∃ kind, Mode.wide.scheme.checkedBag [number, wide, wide] =
        .error (.mismatch .wide kind)) ∧
      (∃ kind, draft.toRequest = .error (.scheme (.mismatch .wide kind))) ∧
      ∃ peak, Mode.wide.scheme.checkedClimb .evenIsLeft (.int 0) wide [wide] = .ok peak ∧
        peak.IsOf .wide := by
  intro wide compact number draft
  obtain ⟨hroot, hclimb, hbag, hdraft⟩ := operations_isolate .wide
  have hcompact : ¬compact.IsOf .wide := by decide
  have hnumber : ¬number.IsOf .wide := by decide
  have hown : ∀ x ∈ [wide, wide], x.IsOf .wide := by
    intro x hx
    rcases List.mem_pair.mp hx with rfl | rfl <;> rfl
  refine ⟨?_, ?_, ?_, ?_, ?_⟩
  · exact (hroot _ 3 ⟨by decide, by decide⟩).mismatch_iff.mpr ⟨compact, by simp, hcompact⟩
  · exact (hclimb .oddIsLeft 3 compact [wide] (List.cons_ne_nil _ _)).mismatch_iff.mpr
      ⟨compact, by simp, hcompact⟩
  · exact (hbag [number, wide, wide] (by decide)).mismatch_iff.mpr ⟨number, by simp, hnumber⟩
  · exact (hdraft draft 0 3 rfl rfl ⟨by decide, by decide⟩ rfl ⟨by decide,
      by decide⟩).mismatch_iff.mpr ⟨compact, by simp [Draft.operands, draft], hcompact⟩
  · have hpair := hclimb .evenIsLeft 0 wide [wide] (List.cons_ne_nil _ _)
    refine hpair.exists_ok fun hmismatch => ?_
    obtain ⟨x, hx, hforeign⟩ := hpair.mismatch_iff.mp hmismatch
    exact hforeign (hown x hx)

end Mode

end MountainRange
