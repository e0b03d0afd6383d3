import PartitionBoot.Heap.Blocks

/-!
The memory services of a partition: page grants and buffers by memory category. Categories that
are not backed never receive memory. Exhaustion is an answer; a free that matches nothing handed
out is a fault.
-/

namespace PartitionBoot

namespace MemoryServices

def start {ε : Type} (region : AddressRange) (memory : Memory) : Report ε Heap := do
  Report.note (.heapStarting region.base region.size)
  let heap := Heap.create region memory
  Report.note heap.pages.created
  pure heap

def backed {α : Type} (category : MemoryCategory) (request : Step Heap HeapFault (Option α)) :
    Step Heap HeapFault (Option α) :=
  if category.isBacked then request else pure none

def allocatePages (category : MemoryCategory) (pages : Nat) : Step Heap HeapFault (Option Nat) :=
  backed category (Heap.allocatePages pages)

def allocateAlignedPages (category : MemoryCategory) (pages alignment : Nat) :
    Step Heap HeapFault (Option Nat) :=
  backed category (Heap.allocateAlignedPages pages alignment)

def freePages (base pages : Nat) : Step Heap HeapFault Unit := Heap.freePages base pages

def allocatePool (category : MemoryCategory) (bytes : Nat) : Step Heap HeapFault (Option Nat) :=
  backed category (Heap.allocateBytes bytes)

def allocateZeroPool (category : MemoryCategory) (bytes : Nat) :
    Step Heap HeapFault (Option Nat) := do
  match ← allocatePool category bytes with
  | none => pure none
  | some buffer => do
      modify fun heap => { heap with memory := heap.memory.fill buffer 0 bytes }
      pure (some buffer)

def allocateCopyPool (category : MemoryCategory) (source : List UInt8) :
    Step Heap HeapFault (Option Nat) := do
  match ← allocatePool category source.length with
  | none => pure none
  | some buffer => do
      modify fun heap => { heap with memory := heap.memory.writeBytes buffer source }
      pure (some buffer)

def freePool (buffer : Nat) : Step Heap HeapFault Unit := Heap.freeBytes buffer

/-- Moves a buffer into a zero-filled one of another size, keeps the bytes that both have room
for, and frees the old one. A failed request leaves the old buffer as it is. -/
def reallocatePool (category : MemoryCategory) (oldSize newSize : Nat) (old : Option Nat) :
    Step Heap HeapFault (Option Nat) := do
  match ← allocateZeroPool category newSize, old with
  | none, _ => pure none
  | some buffer, none => pure (some buffer)
  | some buffer, some old =>
      if UInt64.size ≤ old + oldSize then
        Step.fail (.reallocationWraps old oldSize)
      else do
        modify fun heap =>
          { heap with memory := heap.memory.copy old buffer (min oldSize newSize) }
        freePool old
        pure (some buffer)

def freePageCount (heap : Heap) : Nat := heap.pages.free

def totalPages (heap : Heap) : Nat := heap.pages.total

def range (heap : Heap) : AddressRange := heap.pages.range

end MemoryServices

end PartitionBoot
