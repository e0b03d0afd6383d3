import PartitionBoot.Manifest
import PartitionBoot.Page
import PartitionBoot.Proofs.Outcome

/-!
What a manifest that was parsed says: where the image lies and how large it is, and that a memory
region in it holds a page or more.
-/

namespace PartitionBoot

theorem unreadable_fails {α : Type} (failure : BootFailure) (value : α) :
    (unreadable failure).result ≠ .ok value := by
  cases failure <;> simp [unreadable]

namespace DeviceTree

variable {tree : DeviceTree} {node : Node} {name : String}

theorem required_ok {α : Type} {found : Option α} {value : α}
    (read : (required name found).result = .ok value) : found = some value := by
  cases found with
  | none => cases read
  | some same =>
      cases read
      rfl

theorem read32_ok {value : UInt32} (read : (tree.read32 node name).result = .ok value) :
    (tree.property32 node name).result = .ok (some value) := by
  obtain ⟨found, property, present⟩ := Report.bind_ok_iff.mp read
  rw [property, required_ok present]

theorem read64_ok {value : UInt64} (read : (tree.read64 node name).result = .ok value) :
    (tree.property64 node name).result = .ok (some value) := by
  obtain ⟨found, property, present⟩ := Report.bind_ok_iff.mp read
  rw [property, required_ok present]

theorem searchFrom_ok {α : Type} {visit : Node → Report BootFailure (Option α)} {offset : Nat}
    {upcoming : tree.Upcoming offset} {value : α}
    (searched : (tree.searchFrom visit offset upcoming).result = .ok (some value)) :
    ∃ child, (visit child).result = .ok (some value) := by
  fun_induction searchFrom tree visit offset upcoming with
  | case1 offset failure => cases searched
  | case2 offset => cases searched
  | case3 offset found ih =>
      obtain ⟨following, _, searched⟩ := Report.bind_ok_iff.mp searched
      obtain ⟨result, visited, searched⟩ := Report.bind_ok_iff.mp searched
      cases result with
      | none => exact ih following searched
      | some same =>
          cases searched
          exact ⟨found.node, visited⟩

theorem searchChildren_ok {α : Type} {visit : Node → Report BootFailure (Option α)} {value : α}
    (searched : (tree.searchChildren node visit).result = .ok (some value)) :
    ∃ child, (visit child).result = .ok (some value) := by
  obtain ⟨first, _, searched⟩ := Report.bind_ok_iff.mp searched
  exact searchFrom_ok searched

end DeviceTree

theorem Granule.le_pageSize (granule : Granule) : Page.size ≤ granule.pageSize.toNat := by
  cases granule <;> decide

namespace Manifest

variable {manifest : Manifest}

structure Reads (manifest : Manifest) (node : DeviceTree.Node) (loadAddress : UInt64)
    (entryOffset : UInt32) (imageSize : UInt64) : Prop where
  found : (manifest.tree.findCompatible manifest.config.manifestCompatible).result =
    .ok (some node)
  loadAddress : (manifest.tree.property64 node "load-address").result = .ok (some loadAddress)
  entryOffset : (manifest.tree.property32 node "entrypoint-offset").result =
    .ok (some entryOffset)
  imageSize : (manifest.tree.property64 node "image-size").result = .ok (some imageSize)

theorem node_ok {node : DeviceTree.Node} (located : manifest.node.result = .ok node) :
    (manifest.tree.findCompatible manifest.config.manifestCompatible).result =
      .ok (some node) := by
  obtain ⟨found, searched, located⟩ := Report.bind_ok_iff.mp located
  rw [Report.recover_ok_iff unreadable_fails] at searched
  rw [searched]
  cases found with
  | none => cases located
  | some same =>
      cases located
      rfl

theorem description_ok {description : ImageDescription}
    (read : manifest.description.result = .ok description) :
    ∃ node, manifest.Reads node description.loadAddress description.entryOffset
      description.imageSize := by
  simp only [Manifest.description, Report.bind_ok_iff] at read
  obtain ⟨node, located, _, load, _, _, _, offset, _, _, _, size, _, _, _, _, _, _, _, _, made⟩ :=
    read
  cases made
  exact ⟨node, node_ok located, DeviceTree.read64_ok load, DeviceTree.read32_ok offset,
    DeviceTree.read64_ok size⟩

theorem parse_ok {layout : PartitionLayout} {granule : Granule}
    (parsed : manifest.parse.result = .ok (layout, granule)) :
    (∃ node loadAddress entryOffset,
      manifest.Reads node loadAddress entryOffset layout.imageSize ∧
        layout.imageBase.toNat = loadAddress.toNat + entryOffset.toNat) ∧
      layout.heapSize = 0 := by
  obtain ⟨description, read, parsed⟩ := Report.bind_ok_iff.mp parsed
  obtain ⟨node, reads⟩ := description_ok read
  obtain ⟨same, laid, parsed⟩ := Report.bind_ok_iff.mp parsed
  obtain ⟨_, _, made⟩ := Report.bind_ok_iff.mp parsed
  cases made
  rw [ImageDescription.layout] at laid
  split at laid
  · rename_i fits
    cases laid
    refine ⟨⟨node, _, _, reads, ?_⟩, rfl⟩
    rw [UInt64.toNat_add, Nat.mod_eq_of_lt (by simpa using fits)]
    simp
  · cases laid

theorem region?_ok {name : List UInt8} {pageSize : UInt64} {node : DeviceTree.Node}
    {region : AddressRange} (large : Page.size ≤ pageSize.toNat)
    (read : (manifest.region? name pageSize node).result = .ok (some region)) :
    Page.size ≤ region.size.toNat := by
  obtain ⟨description, _, read⟩ := Report.bind_ok_iff.mp read
  cases description with
  | none => cases read
  | some description =>
      dsimp only at read
      split at read
      · cases read
      · obtain ⟨base, _, read⟩ := Report.bind_ok_iff.mp read
        cases base with
        | none => cases read
        | some base =>
            obtain ⟨pages, _, read⟩ := Report.bind_ok_iff.mp read
            cases pages with
            | none => cases read
            | some pages =>
                obtain ⟨_, _, read⟩ := Report.bind_ok_iff.mp read
                split at read
                · cases read
                · rename_i present
                  split at read
                  · rename_i fits
                    cases read
                    have positive : 0 < pages.toNat := by
                      have nonzero : pages.toNat ≠ 0 := fun zero =>
                        present (UInt32.toNat_inj.mp zero)
                      omega
                    rw [UInt64.toNat_mul, UInt32.toNat_toUInt64, Nat.mod_eq_of_lt fits]
                    exact Nat.le_trans large (Nat.le_mul_of_pos_left _ positive)
                  · cases read

theorem findRegion_ok {name : List UInt8} {pageSize : UInt64} {region : AddressRange}
    (large : Page.size ≤ pageSize.toNat)
    (found : (manifest.findRegion name pageSize).result = .ok region) :
    Page.size ≤ region.size.toNat := by
  obtain ⟨node, _, found⟩ := Report.bind_ok_iff.mp found
  obtain ⟨regions, _, found⟩ := Report.bind_ok_iff.mp found
  cases regions with
  | none => cases found
  | some regions =>
      obtain ⟨range, searched, found⟩ := Report.bind_ok_iff.mp found
      cases range with
      | none => cases found
      | some range =>
          obtain ⟨_, _, same⟩ := Report.bind_ok_iff.mp found
          cases same
          obtain ⟨child, visited⟩ := DeviceTree.searchChildren_ok searched
          exact region?_ok large visited

end Manifest

end PartitionBoot
