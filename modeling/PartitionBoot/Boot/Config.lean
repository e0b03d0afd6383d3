import PartitionBoot.Supervisor.Version

/-!
The constants a boot is built with.
-/

namespace PartitionBoot

inductive HeapPolicy where
  | required
  | optional
deriving DecidableEq

structure BootConfig where
  version : Version := ⟨1, 1⟩
  manifestCompatible : String := "arm,ffa-manifest-1.0"
  regionsNode : String := "memory-regions"
  /-- The description of the region that backs the allocator: `heap`. -/
  heapRegion : List UInt8 := [0x68, 0x65, 0x61, 0x70]
  heapPolicy : HeapPolicy := .required
  headerPageSize : UInt64 := 0x1000
deriving DecidableEq

end PartitionBoot
