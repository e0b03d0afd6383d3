import PartitionBoot.Word

/-!
Contiguous ranges of addresses and the layout of a partition as its manifest describes it.
-/

namespace PartitionBoot

structure AddressRange where
  base : UInt64
  size : UInt64
deriving DecidableEq

namespace AddressRange

def end? (range : AddressRange) : Option UInt64 :=
  if range.base.toNat + range.size.toNat < UInt64.size then some (range.base + range.size) else none

/-- Whether `[address, address + length)` lies inside the range. Nothing lies inside a range that
wraps, and a wrapping request lies inside no range. -/
def contains (range : AddressRange) (address length : UInt64) : Bool :=
  match range.end?, (AddressRange.mk address length).end? with
  | some stop, some last => range.base ≤ address && last ≤ stop
  | _, _ => false

end AddressRange

structure PartitionLayout where
  imageBase : UInt64
  imageSize : UInt64
  heapBase : UInt64
  heapSize : UInt64
deriving DecidableEq

namespace PartitionLayout

def heap (layout : PartitionLayout) : Option AddressRange :=
  if layout.heapSize = 0 then none else some ⟨layout.heapBase, layout.heapSize⟩

def image (layout : PartitionLayout) : AddressRange := ⟨layout.imageBase, layout.imageSize⟩

end PartitionLayout

end PartitionBoot
