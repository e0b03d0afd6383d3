import PartitionBoot.HandOff
import PartitionBoot.Proofs.SameBytes

/-!
Hand-offs with the same header and the same bytes. Every descriptor is read alike from both, and
both give the same address for the manifest.
-/

namespace PartitionBoot

namespace HandOff

open Report (alike_bind alike_bind_eq alike_eq alike_pure)

variable {handOff other : HandOff}

structure SameBlob (handOff other : HandOff) : Prop where
  header : handOff.header = other.header
  blob : handOff.blob.SameBytes other.blob

structure SameRow (raw also : Window) : Prop where
  bytes : raw.SameBytes also
  size : raw.size = descriptorSize

theorem SameRow.kind_eq {raw also : Window} (row : SameRow raw also) :
    raw.byte kindField = also.byte kindField :=
  row.bytes.byte_eq (by rw [row.size]; decide)

theorem entry_alike (same : handOff.SameBlob other) (index : Nat) :
    Report.Alike SameRow (handOff.entry index) (other.entry index) := by
  simp only [entry, ← same.header]
  split
  · exact .error rfl rfl
  · have cut := same.blob.slice?
      (index * handOff.header.descriptorSize.toNat + handOff.header.descriptorOffset.toNat)
      descriptorSize
    split
    · rename_i missing
      rw [missing] at cut
      generalize other.blob.slice? _ _ = again at cut
      cases cut with
      | none => exact .error rfl rfl
    · rename_i raw found
      rw [found] at cut
      generalize other.blob.slice? _ _ = again at cut
      cases cut with
      | some held =>
          refine alike_pure ⟨held, ?_⟩
          rw [(Window.slice?_eq_some_iff.mp found).2]

theorem descriptor_alike (same : handOff.SameBlob other) (index : Nat) :
    Report.Alike (· = ·) (handOff.descriptor index) (other.descriptor index) := by
  refine alike_bind (entry_alike same index) fun raw also row => ?_
  refine alike_eq ?_
  rw [row.kind_eq, show raw.bytes = also.bytes from row.bytes, row.bytes.le16?_eq,
    row.bytes.le32?_eq, row.bytes.le64?_eq]

theorem firstManifest_alike (same : handOff.SameBlob other) (index count : Nat)
    (found : Option Nat) : Report.Alike (· = ·) (handOff.firstManifest index count found)
      (other.firstManifest index count found) := by
  induction count generalizing index found with
  | zero => exact alike_pure rfl
  | succ count ih =>
      simp only [firstManifest]
      cases entry_alike same index with
      | error failed again =>
          simp only [failed, again]
          exact .error rfl rfl
      | ok told again row =>
          simp only [told, again, row.kind_eq]
          exact ih _ _

theorem manifestAddress_alike (same : handOff.SameBlob other) :
    Report.Alike (· = ·) handOff.manifestAddress other.manifestAddress := by
  rw [manifestAddress, manifestAddress, ← same.header]
  refine alike_bind_eq (firstManifest_alike same _ _ _) fun place => ?_
  cases place with
  | none => exact alike_eq rfl
  | some index => exact alike_bind_eq (descriptor_alike same index) fun _ => alike_eq rfl

/-- Both hand-offs have one header, and give the same descriptors and address of the manifest. -/
structure SameAnswers (handOff other : HandOff) : Prop where
  header : handOff.header = other.header
  descriptor (index : Nat) : (handOff.descriptor index).result = (other.descriptor index).result
  manifestAddress : handOff.manifestAddress.result = other.manifestAddress.result

theorem SameBlob.answers (same : handOff.SameBlob other) : handOff.SameAnswers other where
  header := same.header
  descriptor index := (descriptor_alike same index).result_eq
  manifestAddress := (manifestAddress_alike same).result_eq

end HandOff

end PartitionBoot
