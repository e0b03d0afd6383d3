import PartitionBoot.Proofs.Memory

/-!
Free lists in memory. `Linked` says that a row of blocks is chained through memory as the free
list of a size class; pushing a block puts it in front of the row and touches nothing but the
header and the link of that block.
-/

namespace PartitionBoot

namespace SizeClass

theorem blockSize_bounds (sizeClass : SizeClass) :
    32 ≤ sizeClass.blockSize ∧ sizeClass.blockSize ≤ 2048 := by
  revert sizeClass
  decide

theorem blocks_fill_page (sizeClass : SizeClass) :
    Page.size / sizeClass.blockSize * sizeClass.blockSize = Page.size := by
  revert sizeClass
  decide

theorem le_blockSize_holding {total : Nat} (small : total ≤ BlockHeader.largestBlock) :
    total ≤ (holding total).blockSize := by
  rw [holding]
  cases found : (List.finRange 7).find? fun sizeClass => total ≤ blockSize sizeClass with
  | none =>
      have tooSmall := List.find?_eq_none.mp found 6 (List.mem_finRange 6)
      have largest : blockSize 6 = BlockHeader.largestBlock := rfl
      simp only [largest, decide_eq_true_eq] at tooSmall
      exact absurd small tooSmall
  | some sizeClass => simpa using List.find?_some found

end SizeClass

/-- The bytes at the front of a free block that hold its header and its link. -/
def BlockHeader.freeBytes : Nat := 24

namespace Memory

/-- A row of free blocks of a class, each of which holds the address of the next one. -/
def Linked (memory : Memory) (sizeClass : SizeClass) : Nat → List Nat → Prop
  | head, [] => head = 0
  | head, block :: rest =>
      head = block ∧ block ≠ 0 ∧
      memory.readHeader block = ⟨BlockHeader.free, sizeClass.val, 0⟩ ∧
      memory.Linked sizeClass (memory.readNumber (block + BlockHeader.bytes) 8) rest

theorem Linked.congr {memory other : Memory} {sizeClass : SizeClass} {head : Nat}
    {blocks : List Nat} (linked : memory.Linked sizeClass head blocks)
    (agrees : ∀ block ∈ blocks,
      other.Agrees memory block (block + BlockHeader.freeBytes)) :
    other.Linked sizeClass head blocks := by
  have size : BlockHeader.bytes = 16 := rfl
  have sizeFree : BlockHeader.freeBytes = 24 := rfl
  induction blocks generalizing head with
  | nil => exact linked
  | cons block rest ih =>
      obtain ⟨same, nonzero, header, tail⟩ := linked
      have mine := agrees block List.mem_cons_self
      refine ⟨same, nonzero, ?_, ?_⟩
      · rw [readHeader_congr (mine.mono (by omega) (by omega)), header]
      · rw [readNumber_congr (mine.mono (by omega) (by omega))]
        exact ih tail fun other member => agrees other (List.mem_cons_of_mem _ member)

theorem Linked.cons_of_ne_zero {memory : Memory} {sizeClass : SizeClass} {head : Nat}
    {blocks : List Nat} (linked : memory.Linked sizeClass head blocks) (nonempty : head ≠ 0) :
    ∃ rest, blocks = head :: rest := by
  cases blocks with
  | nil => exact absurd linked nonempty
  | cons block rest => exact ⟨rest, by rw [linked.1]⟩

theorem Linked.head_lt {memory : Memory} {sizeClass : SizeClass} {head : Nat}
    {blocks : List Nat} (linked : memory.Linked sizeClass head blocks)
    (fits : ∀ block ∈ blocks, block < UInt64.size) : head < UInt64.size := by
  cases blocks with
  | nil =>
      rw [show head = 0 from linked]
      decide
  | cons block rest =>
      rw [linked.1]
      exact fits block List.mem_cons_self

theorem Linked.header {memory : Memory} {sizeClass : SizeClass} {head block : Nat}
    {blocks : List Nat} (linked : memory.Linked sizeClass head blocks) (member : block ∈ blocks) :
    memory.readHeader block = ⟨BlockHeader.free, sizeClass.val, 0⟩ := by
  induction blocks generalizing head with
  | nil => cases member
  | cons first rest ih =>
      obtain ⟨_, _, header, tail⟩ := linked
      rcases List.mem_cons.mp member with rfl | later
      · exact header
      · exact ih tail later

theorem Linked.link {memory : Memory} {sizeClass : SizeClass} {head block : Nat}
    {blocks : List Nat} (linked : memory.Linked sizeClass head blocks) (member : block ∈ blocks)
    (more : memory.readNumber (block + BlockHeader.bytes) 8 ≠ 0) :
    memory.readNumber (block + BlockHeader.bytes) 8 ∈ blocks := by
  induction blocks generalizing head with
  | nil => cases member
  | cons first rest ih =>
      obtain ⟨_, _, _, tail⟩ := linked
      rcases List.mem_cons.mp member with rfl | later
      · obtain ⟨others, split⟩ := tail.cons_of_ne_zero more
        rw [split]
        exact List.mem_cons_of_mem _ List.mem_cons_self
      · exact List.mem_cons_of_mem _ (ih tail later)

end Memory

namespace Heap

theorem get_set (lists : Vector Nat 7) (sizeClass other : SizeClass) (block : Nat) :
    (lists.set sizeClass.val block sizeClass.isLt).get other =
      if sizeClass = other then block else lists.get other := by
  have read : (lists.set sizeClass.val block sizeClass.isLt).get other =
      if sizeClass.val = other.val then block else lists.get other :=
    Vector.getElem_set sizeClass.isLt other.isLt
  simpa only [Fin.val_inj] using read

theorem setIfInBounds_eq_set (lists : Vector Nat 7) (sizeClass : SizeClass) (block : Nat) :
    lists.setIfInBounds sizeClass.val block = lists.set sizeClass.val block sizeClass.isLt := by
  apply Vector.ext
  intro index bound
  rw [Vector.getElem_setIfInBounds bound, Vector.getElem_set sizeClass.isLt bound]

def firstFree (heap : Heap) (sizeClass : SizeClass) : Nat := heap.freeLists.get sizeClass

theorem push_memory (heap : Heap) (sizeClass : SizeClass) (block : Nat) :
    (heap.push sizeClass block).memory =
      (heap.memory.writeHeader block ⟨BlockHeader.free, sizeClass.val, 0⟩).writeNumber
        (block + BlockHeader.bytes) 8 (heap.firstFree sizeClass) := by
  simp only [push]
  rfl

theorem push_agrees (heap : Heap) (sizeClass : SizeClass) {block start stop : Nat}
    (apart : stop ≤ block ∨ block + BlockHeader.freeBytes ≤ start) :
    (heap.push sizeClass block).memory.Agrees heap.memory start stop := by
  have size : BlockHeader.bytes = 16 := rfl
  have sizeFree : BlockHeader.freeBytes = 24 := rfl
  rw [push_memory]
  exact (Memory.agrees_writeNumber (by omega)).trans (Memory.agrees_writeHeader (by omega))

theorem firstFree_push (heap : Heap) (sizeClass other : SizeClass) (block : Nat) :
    (heap.push sizeClass block).firstFree other =
      if sizeClass = other then block else heap.firstFree other := by
  simp only [firstFree, push, get_set]

theorem push_linked {heap : Heap} {sizeClass : SizeClass} {block : Nat} {blocks : List Nat}
    (linked : heap.memory.Linked sizeClass (heap.firstFree sizeClass) blocks)
    (nonzero : block ≠ 0) (fits : heap.firstFree sizeClass < UInt64.size)
    (apart : ∀ other ∈ blocks, other + BlockHeader.freeBytes ≤ block ∨
      block + BlockHeader.freeBytes ≤ other) :
    (heap.push sizeClass block).memory.Linked sizeClass
      ((heap.push sizeClass block).firstFree sizeClass) (block :: blocks) := by
  have size : BlockHeader.bytes = 16 := rfl
  have wellFormed : (⟨BlockHeader.free, sizeClass.val, 0⟩ : BlockHeader).Fits :=
    ⟨show BlockHeader.free < _ by decide, Nat.lt_trans sizeClass.isLt (by decide),
      show 0 < _ by decide⟩
  have header : (heap.push sizeClass block).memory.readHeader block =
      ⟨BlockHeader.free, sizeClass.val, 0⟩ := by
    rw [push_memory, Memory.readHeader_congr (Memory.agrees_writeNumber (by omega)),
      Memory.readHeader_writeHeader wellFormed]
  have link : (heap.push sizeClass block).memory.readNumber (block + BlockHeader.bytes) 8 =
      heap.firstFree sizeClass := by
    rw [push_memory]
    exact Memory.readNumber_writeNumber fits
  rw [firstFree_push, if_pos rfl]
  refine ⟨rfl, nonzero, header, ?_⟩
  rw [link]
  refine linked.congr fun other member => push_agrees heap sizeClass ?_
  have away := apart other member
  omega

def pushAll (heap : Heap) (sizeClass : SizeClass) (blocks : List Nat) : Heap :=
  blocks.foldr (fun block heap => heap.push sizeClass block) heap

theorem pushAll_pages (heap : Heap) (sizeClass : SizeClass) (blocks : List Nat) :
    (heap.pushAll sizeClass blocks).pages = heap.pages := by
  induction blocks with
  | nil => rfl
  | cons block rest ih => exact ih

theorem firstFree_pushAll {heap : Heap} {sizeClass other : SizeClass} (differ : sizeClass ≠ other)
    (blocks : List Nat) :
    (heap.pushAll sizeClass blocks).firstFree other = heap.firstFree other := by
  induction blocks with
  | nil => rfl
  | cons block rest ih =>
      rw [← ih]
      exact (firstFree_push _ _ _ _).trans (if_neg differ)

theorem pushAll_agrees {heap : Heap} {sizeClass : SizeClass} {blocks : List Nat}
    {start stop : Nat}
    (apart : ∀ block ∈ blocks, stop ≤ block ∨ block + BlockHeader.freeBytes ≤ start) :
    (heap.pushAll sizeClass blocks).memory.Agrees heap.memory start stop := by
  induction blocks with
  | nil => exact Memory.Agrees.refl _ _ _
  | cons block rest ih =>
      refine Memory.Agrees.trans ?_ (ih fun other member =>
        apart other (List.mem_cons_of_mem _ member))
      exact push_agrees _ _ (apart block List.mem_cons_self)

theorem pushAll_linked {heap : Heap} {sizeClass : SizeClass} {blocks chain : List Nat}
    (linked : heap.memory.Linked sizeClass (heap.firstFree sizeClass) chain)
    (nonzero : ∀ block ∈ blocks, block ≠ 0)
    (fits : ∀ block ∈ blocks ++ chain, block < UInt64.size)
    (apart : (blocks ++ chain).Pairwise fun left right =>
      left + BlockHeader.freeBytes ≤ right ∨ right + BlockHeader.freeBytes ≤ left) :
    (heap.pushAll sizeClass blocks).memory.Linked sizeClass
      ((heap.pushAll sizeClass blocks).firstFree sizeClass) (blocks ++ chain) := by
  induction blocks with
  | nil => exact linked
  | cons block rest ih =>
      obtain ⟨away, apart⟩ := List.pairwise_cons.mp apart
      have linked := ih (fun other member => nonzero other (List.mem_cons_of_mem _ member))
        (fun other member => fits other (List.mem_cons_of_mem _ member)) apart
      refine push_linked linked (nonzero block List.mem_cons_self) ?_ fun other member =>
        (away other member).symm
      exact linked.head_lt fun other member => fits other (List.mem_cons_of_mem _ member)

end Heap

end PartitionBoot
