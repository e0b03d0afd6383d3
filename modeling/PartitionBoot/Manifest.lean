import PartitionBoot.AddressRange
import PartitionBoot.Boot.Config
import PartitionBoot.DeviceTree.Query

/-!
The partition manifest: the description of the image and the named memory regions, taken from the
node that is compatible with the manifest identifier.
-/

namespace PartitionBoot

inductive Granule where
  | size4K
  | size16K
  | size64K
deriving DecidableEq

namespace Granule

def ofValue (value : UInt32) : Report BootFailure Granule :=
  match value.toNat with
  | 0 => pure size4K
  | 1 => pure size16K
  | 2 => pure size64K
  | _ => Report.failNoting (.granuleUnknown value) (.manifestMalformed (.unknownGranule value))

def pageSize : Granule → UInt64
  | size4K => 0x1000
  | size16K => 0x4000
  | size64K => 0x10000

end Granule

structure ImageDescription where
  loadAddress : UInt64
  entryOffset : UInt32
  imageSize : UInt64
  granule : Granule
deriving DecidableEq

def ImageDescription.layout (description : ImageDescription) :
    Report BootFailure PartitionLayout :=
  if description.loadAddress.toNat + description.entryOffset.toNat < UInt64.size then
    pure {
      imageBase := description.loadAddress + description.entryOffset.toUInt64
      imageSize := description.imageSize
      heapBase := 0
      heapSize := 0 }
  else
    Report.failNoting (.loadAddressOverflow description.loadAddress description.entryOffset)
      (.manifestMalformed .outOfBounds)

/-- A tree that cannot be walked up to the manifest node holds no manifest. -/
def unreadable {α : Type} (failure : BootFailure) : Report BootFailure α :=
  match failure with
  | .manifestMalformed fault =>
      Report.failNoting (.manifestUnreadable fault) (.manifestMissing (.unreadable fault))
  | other => Report.fail other

structure Manifest where
  tree : DeviceTree
  config : BootConfig

namespace Manifest

def inMemory (manifest : Manifest) (memory : Memory) : Manifest :=
  { manifest with tree := {
      tokens := { manifest.tree.tokens with memory }
      names := { manifest.tree.names with memory } } }

def node (manifest : Manifest) : Report BootFailure DeviceTree.Node := do
  let identifier := manifest.config.manifestCompatible
  match ← (manifest.tree.findCompatible identifier).recover unreadable with
  | some found => pure found
  | none =>
      Report.failNoting (.manifestNodeMissing identifier) (.manifestMissing .noManifestNode)

def description (manifest : Manifest) : Report BootFailure ImageDescription := do
  let node ← manifest.node
  let loadAddress ← manifest.tree.read64 node "load-address"
  Report.note (.loadAddress loadAddress)
  let entryOffset ← manifest.tree.read32 node "entrypoint-offset"
  Report.note (.entryOffset entryOffset)
  let imageSize ← manifest.tree.read64 node "image-size"
  Report.note (.imageSize imageSize)
  let value ← manifest.tree.read32 node "xlat-granule"
  Report.note (.granuleValue value)
  let granule ← Granule.ofValue value
  pure { loadAddress, entryOffset, imageSize, granule }

def parse (manifest : Manifest) : Report BootFailure (PartitionLayout × Granule) := do
  let description ← manifest.description
  let layout ← description.layout
  Report.note (.partitionImage layout.imageBase layout.imageSize description.granule.pageSize)
  pure (layout, description.granule)

/-- Whether two byte strings agree over the shorter of their lengths. -/
def agree (left right : List UInt8) : Bool :=
  let shorter := min left.length right.length
  left.take shorter = right.take shorter

def region? (manifest : Manifest) (name : List UInt8) (pageSize : UInt64)
    (node : DeviceTree.Node) : Report BootFailure (Option AddressRange) := do
  match ← manifest.tree.property node "description" with
  | none => pure none
  | some description =>
      if !agree description.bytes name then
        pure none
      else
        match ← manifest.tree.property64 node "base-address" with
        | none => Report.failNoting (.propertyMissing "base-address") .heapRegionMissing
        | some base =>
            match ← manifest.tree.property32 node "pages-count" with
            | none => Report.failNoting (.propertyMissing "pages-count") .heapRegionMissing
            | some pages => do
                Report.note (.regionFields base pages)
                if pages = 0 then
                  Report.failNoting (.regionEmpty name) .heapRegionMissing
                else if pages.toNat * pageSize.toNat < UInt64.size then
                  pure (some ⟨base, pages.toUInt64 * pageSize⟩)
                else
                  Report.fail (.manifestMalformed .outOfBounds)

def findRegion (manifest : Manifest) (name : List UInt8) (pageSize : UInt64) :
    Report BootFailure AddressRange := do
  let node ← manifest.node
  let listName := manifest.config.regionsNode
  match ← manifest.tree.subnode node listName with
  | none => Report.failNoting (.regionsMissing listName) (.manifestMissing .noMemoryRegions)
  | some regions =>
      match ← manifest.tree.searchChildren regions (manifest.region? name pageSize) with
      | some range => do
          Report.note (.regionFound name range.base range.size)
          pure range
      | none => Report.failNoting (.regionMissing name) .heapRegionMissing

end Manifest

end PartitionBoot
