import PartitionBoot.Heap.PagePool

/-!
The heap as a state: the page pool, the heads of the byte pool's free lists and the memory that
holds everything else. This module has the page operations; none of them touches a free list.
-/

namespace PartitionBoot

/-- A size class of small blocks: its blocks have `32 <<< index` bytes. -/
abbrev SizeClass := Fin 7

structure Allocator where
  pages : PagePool
  /-- The first free block of each size class, zero where there is none. -/
  freeLists : Vector Nat 7
deriving DecidableEq

structure Heap extends Allocator where
  memory : Memory

namespace Heap

def create (range : AddressRange) (memory : Memory) : Heap :=
  let (pages, memory) := PagePool.create range memory
  { pages, freeLists := Vector.replicate 7 0, memory }

def withPages (heap : Heap) (changed : PagePool × Memory) : Heap :=
  { heap with pages := changed.1, memory := changed.2 }

def grant (index pages : Nat) : Step Heap HeapFault Nat := do
  modify fun heap => heap.withPages (heap.pages.mark heap.memory index pages)
  let base := (← get).pages.address index
  Step.note (.pagesCarved base (base + Page.bytes pages))
  pure base

def allocatePages (pages : Nat) : Step Heap HeapFault (Option Nat) := do
  let heap ← get
  if pages = 0 then
    pure none
  else
    match heap.pages.findFree heap.memory pages with
    | none => pure none
    | some index => some <$> grant index pages

/-- Grants pages whose base is a multiple of an alignment. A window with room to spare is looked
for, and only the aligned part of it is granted. -/
def allocateAlignedPages (pages alignment : Nat) : Step Heap HeapFault (Option Nat) := do
  let heap ← get
  if alignment != 0 && 1 <<< alignment.log2 != alignment then
    Step.fail (.alignmentNotPowerOfTwo alignment)
  else if pages = 0 then
    pure none
  else if alignment ≤ Page.size then
    allocatePages pages
  else
    let window := pages + Page.spanning alignment
    if UInt64.size ≤ window then
      Step.fail (.alignmentOverflow pages alignment)
    else
      match heap.pages.findFree heap.memory window with
      | none => pure none
      | some index =>
          let lowest := heap.pages.address index
          if UInt64.size ≤ lowest + (alignment - 1) then
            Step.fail (.aligningOverflow lowest alignment)
          else
            let aligned := alignUp lowest alignment
            let _ ← grant ((aligned - heap.pages.first) / Page.size) pages
            pure (some aligned)

def freePages (base pages : Nat) : Step Heap HeapFault Unit := do
  let heap ← get
  match heap.pages.grantIndex? heap.memory base pages with
  | none => Step.fail (.unmatchedFree base pages)
  | some index => do
      set (heap.withPages (heap.pages.unmark heap.memory index pages))
      Step.note (.pagesReleased base (base + Page.bytes pages))

end Heap

end PartitionBoot
