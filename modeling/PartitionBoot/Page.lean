/-!
Page arithmetic, and the memory categories that callers may ask for.
-/

namespace PartitionBoot

namespace Page

def size : Nat := 4096

def shift : Nat := 12

def spanning (bytes : Nat) : Nat :=
  bytes / size + if bytes % size = 0 then 0 else 1

def bytes (pages : Nat) : Nat := pages * size

/-- Bytes in a number of pages as an address distance, which drops the bits that do not fit. -/
def distance (pages : UInt64) : UInt64 := pages <<< UInt64.ofNat shift

end Page

inductive MemoryCategory where
  | runtime
  | reserved
deriving DecidableEq

inductive CategoryPolicy where
  | backed
  | unbacked
deriving DecidableEq

namespace MemoryCategory

def policy : MemoryCategory → CategoryPolicy
  | runtime => .backed
  | reserved => .unbacked

def isBacked (category : MemoryCategory) : Bool := category.policy = .backed

def value : MemoryCategory → UInt32
  | runtime => 0
  | reserved => 1

end MemoryCategory

end PartitionBoot
