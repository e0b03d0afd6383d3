import PartitionBoot.HandOff
import PartitionBoot.Proofs.Outcome

/-!
What the hand-off blob says: the manifest address is that of the first descriptor of a manifest.
-/

namespace PartitionBoot

namespace HandOff

variable {handOff : HandOff} {address : UInt64}

/-- The first descriptor of a manifest in the table gives an address. -/
def Names (handOff : HandOff) (address : UInt64) : Prop :=
  ∃ index found, index < handOff.header.descriptorCount.toNat ∧
    (handOff.descriptor index).result = .ok found ∧ found.isManifest ∧
    found.content = address ∧
    ∀ earlier < index, ∀ other, (handOff.descriptor earlier).result = .ok other →
      ¬ other.isManifest

def FirstFrom (handOff : HandOff) (index count place : Nat) : Prop :=
  index ≤ place ∧ place < index + count ∧
    (∃ raw, (handOff.entry place).result = .ok raw ∧ isManifestKind (raw.byte kindField)) ∧
    ∀ earlier, index ≤ earlier → earlier < place → ∀ raw,
      (handOff.entry earlier).result = .ok raw → ¬ isManifestKind (raw.byte kindField)

theorem descriptor_ok {index : Nat} {found : Descriptor}
    (read : (handOff.descriptor index).result = .ok found) :
    ∃ raw, (handOff.entry index).result = .ok raw ∧ found.kind = raw.byte kindField := by
  simp only [descriptor, Report.bind_ok_iff] at read
  obtain ⟨raw, entered, _, _, _, _, _, _, made⟩ := read
  cases made
  exact ⟨raw, entered, rfl⟩

theorem firstManifest_some {index count place : Nat} {result : Option Nat}
    (searched : (handOff.firstManifest index count (some place)).result = .ok result) :
    result = some place := by
  induction count generalizing index with
  | zero =>
      cases searched
      rfl
  | succ count ih =>
      rw [firstManifest] at searched
      dsimp only at searched
      split at searched
      · cases searched
      · exact ih searched

theorem firstManifest_none {index count place : Nat}
    (searched : (handOff.firstManifest index count none).result = .ok (some place)) :
    handOff.FirstFrom index count place := by
  induction count generalizing index with
  | zero => cases searched
  | succ count ih =>
      rw [firstManifest] at searched
      dsimp only at searched
      split at searched
      · cases searched
      · rename_i raw entered
        by_cases manifest : isManifestKind (raw.byte kindField)
        · -- The scan goes on behind the first manifest, but only to look for faults.
          rw [manifest, if_pos rfl] at searched
          cases firstManifest_some searched
          exact ⟨Nat.le_refl _, by omega, ⟨raw, entered, manifest⟩, fun _ _ _ => by omega⟩
        · rw [if_neg manifest] at searched
          obtain ⟨behind, within, found, first⟩ := ih searched
          refine ⟨by omega, by omega, found, ?_⟩
          intro earlier low high other read
          rcases Nat.lt_or_eq_of_le low with later | same
          · exact first earlier later high other read
          · subst same
            cases entered.symm.trans read
            exact manifest

theorem manifestAddress_ok (located : handOff.manifestAddress.result = .ok address) :
    handOff.Names address ∧ address ≠ 0 := by
  obtain ⟨place, searched, located⟩ := Report.bind_ok_iff.mp located
  cases place with
  | none => cases located
  | some index =>
      obtain ⟨found, read, located⟩ := Report.bind_ok_iff.mp located
      obtain ⟨_, within, ⟨raw, entered, manifest⟩, first⟩ := firstManifest_none searched
      have content : found.content ≠ 0 ∧ found.content = address := by
        split at located
        · cases located
        · rename_i present
          obtain ⟨_, _, made⟩ := Report.bind_ok_iff.mp located
          cases made
          exact ⟨present, rfl⟩
      obtain ⟨present, rfl⟩ := content
      refine ⟨⟨index, found, by omega, read, ?_, rfl, ?_⟩, present⟩
      · obtain ⟨same, entry, kind⟩ := descriptor_ok read
        cases entered.symm.trans entry
        rw [Descriptor.isManifest, kind]
        exact manifest
      · intro earlier before other told
        obtain ⟨seen, entry, kind⟩ := descriptor_ok told
        rw [Descriptor.isManifest, kind]
        exact first earlier (Nat.zero_le _) before seen entry

end HandOff

end PartitionBoot
