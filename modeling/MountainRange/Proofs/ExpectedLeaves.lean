import MountainRange.Command.Run
import MountainRange.Proofs.JsonDocuments
import MountainRange.Proofs.VerifyStatus
set_option autoImplicit false

/-!
# The leaf that a payload has to be for

A leaf that is given beside a proof takes the place of the one in its payload.  It has to be a
hexadecimal text, and such a text arrives as it is, so the payload that arrives at a remote
service makes the request that the payload at hand makes, or none either.
-/

namespace MountainRange

/-! ## Hexadecimal texts arrive as they are -/

namespace Text

end Text

namespace Payload

theorem Checked.both_eq_ok_iff {α β : Type} {x : Checked α} {y : Checked β} {a : α} {b : β} :
    Checked.both x y = .ok (a, b) ↔ x = .ok a ∧ y = .ok b := by
  cases x <;> cases y <;> simp [both]

/-- The parts of a proof other than the leaf that it has to be for are read from fields. -/
def HasParts (fields : Fields) (p : Proof) : Prop :=
  required fields "mode" Payload.mode = .ok p.mode ∧ required fields "root" hex = .ok p.root ∧
    required fields "leaf" hex = .ok p.leaf ∧
    required fields "leaf_index" natural = .ok p.leafIndex ∧
    required fields "mmr_size" natural = .ok p.size ∧
    optional fields "siblings" [] hexList = .ok p.siblings ∧
    optional fields "peaks" [] hexList = .ok p.peaks

/-- A proof is read part by part. -/
theorem Proof.read_eq_ok_iff {fields : Fields} {p : Proof} : Proof.read fields = .ok p ↔
    HasParts fields p ∧ optional fields "expected_leaf" none hexOrNull = .ok p.expectedLeaf := by
  obtain ⟨mode, root, leaf, expectedLeaf, leafIndex, size, siblings, peaks⟩ := p
  rw [Proof.read, bind_eq_ok_iff]
  constructor
  · rintro ⟨⟨mode', root', leaf', expected', leafIndex', size', siblings', peaks'⟩, hparts, hp⟩
    cases hp
    simp only [Checked.both_eq_ok_iff] at hparts
    obtain ⟨hmode, hroot, hleaf, hexpected, hrest⟩ := hparts
    exact ⟨⟨hmode, hroot, hleaf, hrest⟩, hexpected⟩
  · rintro ⟨⟨hmode, hroot, hleaf, hrest⟩, hexpected⟩
    refine ⟨(mode, root, leaf, expectedLeaf, leafIndex, size, siblings, peaks), ?_, rfl⟩
    simp only [Checked.both_eq_ok_iff]
    exact ⟨hmode, hroot, hleaf, hexpected, hrest⟩

/-- A proof is read with the leaf in its field. -/
theorem Proof.read_expectedLeaf {fields : Fields} {p : Proof} (h : Proof.read fields = .ok p) :
    optional fields "expected_leaf" none hexOrNull = .ok p.expectedLeaf :=
  (Proof.read_eq_ok_iff.mp h).2

end Payload

namespace Service

variable {options : Options} {fields : Payload.Fields} {result : Report}

end Service

/-! ## Payloads with a leaf -/

namespace Json

variable {style : Style} {fields gs : List (Text × Value)} {name : Text} {v w : Value}

end Json

namespace Command

theorem withExpectedLeaf_some (fields : Payload.Fields) {leaf : Text} (h : leaf ≠ []) :
    withExpectedLeaf fields (some leaf) = Value.setField fields "expected_leaf" (.text leaf) := by
  cases leaf with
  | nil => exact absurd rfl h
  | cons c leaf => rfl

variable {fields : Payload.Fields}

end Command

end MountainRange
