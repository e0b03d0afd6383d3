import PartitionBoot.Heap.Pages

/-!
Byte buffers on top of page grants. Small requests are served from blocks of seven sizes that are
carved out of single pages; a larger request gets pages of its own. A block starts with a header
that says whether it is live, and the free blocks of a size are linked through their payloads.
-/

namespace PartitionBoot

namespace SizeClass

def blockSize (sizeClass : SizeClass) : Nat := 32 <<< sizeClass.val

def holding (total : Nat) : SizeClass :=
  ((List.finRange 7).find? fun sizeClass => total ≤ blockSize sizeClass).getD 6

end SizeClass

structure BlockHeader where
  signature : Nat
  /-- A size class, or the mark of a block with pages of its own. -/
  sizeClass : Nat
  size : Nat
deriving DecidableEq

namespace BlockHeader

def bytes : Nat := 16

/-- `sphd`, least significant byte first: the block is live. -/
def live : Nat := 0x64687073

/-- `spfr`, least significant byte first: the block is free. -/
def free : Nat := 0x72667073

def largeClass : Nat := 0xffffffff

def largestBlock : Nat := 2048

end BlockHeader

namespace Memory

def readHeader (memory : Memory) (block : Nat) : BlockHeader where
  signature := memory.readNumber block 4
  sizeClass := memory.readNumber (block + 4) 4
  size := memory.readNumber (block + 8) 8

def writeHeader (memory : Memory) (block : Nat) (header : BlockHeader) : Memory :=
  ((memory.writeNumber block 4 header.signature).writeNumber (block + 4) 4
    header.sizeClass).writeNumber (block + 8) 8 header.size

end Memory

namespace Heap

def push (heap : Heap) (sizeClass : SizeClass) (block : Nat) : Heap :=
  let marked := heap.memory.writeHeader block ⟨BlockHeader.free, sizeClass.val, 0⟩
  { heap with
    memory := marked.writeNumber (block + BlockHeader.bytes) 8 heap.freeLists[sizeClass]
    freeLists := heap.freeLists.set sizeClass block }

def refill (sizeClass : SizeClass) : Step Heap HeapFault Bool := do
  match ← allocatePages 1 with
  | none => pure false
  | some page => do
      let size := sizeClass.blockSize
      Step.note (.poolRefilled size page)
      modify fun heap => (List.range (Page.size / size)).foldr
        (fun index heap => heap.push sizeClass (page + index * size)) heap
      pure true

def pop (sizeClass : SizeClass) : Step Heap HeapFault Nat := do
  let heap ← get
  let block := heap.freeLists[sizeClass]
  let header := heap.memory.readHeader block
  if header.signature = BlockHeader.free ∧ header.sizeClass = sizeClass.val then do
    let next := heap.memory.readNumber (block + BlockHeader.bytes) 8
    set { heap with freeLists := heap.freeLists.set sizeClass next }
    pure block
  else
    Step.fail (.corruptFreeList block)

def enliven (block sizeClass bytes : Nat) : Step Heap HeapFault Nat := do
  modify fun heap => { heap with
    memory := heap.memory.writeHeader block ⟨BlockHeader.live, sizeClass, bytes⟩ }
  pure (block + BlockHeader.bytes)

/-- A buffer of a number of bytes; a request for none still gets a buffer of its own. -/
def allocateBytes (bytes : Nat) : Step Heap HeapFault (Option Nat) := do
  let total := bytes + BlockHeader.bytes
  if UInt64.size ≤ total then
    pure none
  else if BlockHeader.largestBlock < total then
    match ← allocatePages (Page.spanning total) with
    | none => pure none
    | some block => some <$> enliven block BlockHeader.largeClass bytes
  else
    let sizeClass := SizeClass.holding total
    let stocked ← if (← get).freeLists[sizeClass] = 0 then refill sizeClass else pure true
    if stocked then
      let block ← pop sizeClass
      some <$> enliven block sizeClass.val bytes
    else
      pure none

def freeBytes (buffer : Nat) : Step Heap HeapFault Unit := do
  let heap ← get
  let block := buffer - BlockHeader.bytes
  if buffer < BlockHeader.bytes ∨ block < heap.pages.first ∨
      heap.pages.stop < block + BlockHeader.bytes then
    Step.fail (.freeOutside buffer)
  else
    let header := heap.memory.readHeader block
    if header.signature != BlockHeader.live then
      Step.fail (.notLive buffer header.signature)
    else if header.sizeClass = BlockHeader.largeClass then do
      set { heap with memory := heap.memory.writeHeader block { header with signature := 0 } }
      freePages block (Page.spanning (header.size + BlockHeader.bytes))
    else if small : header.sizeClass < 7 then
      set (heap.push ⟨header.sizeClass, small⟩ block)
    else
      Step.fail (.corruptClass buffer header.sizeClass)

end Heap

end PartitionBoot
