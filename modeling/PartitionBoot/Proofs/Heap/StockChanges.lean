import Mathlib.Logic.Function.Basic
import PartitionBoot.Proofs.Heap.Inventory

/-!
How the stock of a heap changes. Writes that stay inside a live buffer change nothing in it; pages
and blocks move between the pool and the clients; a large buffer is a page grant under another
name.
-/

namespace PartitionBoot

namespace Stock

def withLive (stock : Stock) (live : List Buffer) : Stock := { stock with live }

def withChain (stock : Stock) (sizeClass : SizeClass) (blocks : List Nat) : Stock :=
  { stock with chains := Function.update stock.chains sizeClass blocks }

theorem withChain_chains (stock : Stock) (sizeClass other : SizeClass) (blocks : List Nat) :
    (stock.withChain sizeClass blocks).chains other =
      if other = sizeClass then blocks else stock.chains other :=
  Function.update_apply ..

@[simp] theorem withChain_carved (stock : Stock) (sizeClass : SizeClass) (blocks : List Nat) :
    (stock.withChain sizeClass blocks).carved = stock.carved := rfl

end Stock

theorem BlockHeader.live_fits {sizeClass size : Nat} (small : sizeClass < Nat.pow 256 4)
    (bound : size + BlockHeader.bytes < UInt64.size) :
    (⟨BlockHeader.live, sizeClass, size⟩ : BlockHeader).Fits where
  signature := show BlockHeader.live < _ by decide
  sizeClass := small
  size := Nat.lt_of_le_of_lt (Nat.le_add_right size BlockHeader.bytes) bound

def Heap.withMemory (heap : Heap) (memory : Memory) : Heap := { heap with memory }

@[simp] theorem Heap.withMemory_memory (heap : Heap) (memory : Memory) :
    (heap.withMemory memory).memory = memory := rfl

namespace Heap.Holds

variable {heap : Heap} {stock : Stock}

/-! Changes of memory that leave the stock alone. -/

theorem span_within_extent (holds : heap.Holds stock) {buffer : Buffer}
    (member : buffer ∈ stock.live) : buffer.span.Within buffer.extent := by
  cases buffer with
  | pages base count => exact ⟨Nat.le_refl _, Nat.le_refl _⟩
  | pool address bytes =>
      have room := (holds.headers address bytes member).1
      refine Span.Within.trans ?_ (Buffer.pool_within address bytes room)
      exact ⟨Nat.sub_le _ _, Nat.le_refl _⟩

theorem header_within_extent (holds : heap.Holds stock) {address bytes : Nat}
    (member : .pool address bytes ∈ stock.live) :
    Span.Within ⟨Buffer.blockOf address, Buffer.blockOf address + BlockHeader.bytes⟩
      (Buffer.pool address bytes).extent := by
  have room := (holds.headers address bytes member).1
  refine Span.Within.trans ?_ (Buffer.pool_within address bytes room)
  simp only [Span.Within, Buffer.blockOf]
  omega

theorem pointer_header_within (holds : heap.Holds stock) {pointer bytes : Nat}
    (member : .pool pointer bytes ∈ stock.live) :
    Span.Within ⟨pointer - BlockHeader.bytes, pointer⟩ (Buffer.pool pointer bytes).extent := by
  refine Span.Within.trans ?_
    (Buffer.pool_within pointer bytes (holds.headers pointer bytes member).1)
  exact ⟨Nat.le_refl _, Nat.le_add_right _ _⟩

theorem address_ne (holds : heap.Holds stock) {left right bytes size : Nat}
    (first : .pool left bytes ∈ stock.live) (second : .pool right size ∈ stock.live)
    (apart : (Buffer.pool left bytes).extent.Apart (Buffer.pool right size).extent) :
    left ≠ right := by
  rintro rfl
  have header : BlockHeader.bytes = 16 := rfl
  have mine := holds.header_within_extent first
  have other := holds.header_within_extent second
  simp only [Span.Within, Span.Apart] at *
  omega

theorem pool_inj (holds : heap.Holds stock) {address bytes size : Nat}
    (first : .pool address bytes ∈ stock.live) (second : .pool address size ∈ stock.live) :
    bytes = size := by
  by_cases same : bytes = size
  · exact same
  · have apart := holds.live_apart_of_ne first second (by simp [same])
    exact absurd rfl (holds.address_ne first second apart)

theorem freeBytes_within (sizeClass : SizeClass) (block : Nat) :
    Span.Within ⟨block, block + BlockHeader.freeBytes⟩ (sizeClass.span block) := by
  have bounds := sizeClass.blockSize_bounds
  simp only [Span.Within, SizeClass.span, BlockHeader.freeBytes]
  omega

theorem header_kept (holds : heap.Holds stock) {address bytes : Nat} {memory : Memory}
    (member : .pool address bytes ∈ stock.live)
    (agrees : memory.Agrees heap.memory (Buffer.blockOf address)
      (Buffer.blockOf address + BlockHeader.bytes)) :
    BlockHeader.bytes ≤ address ∧ bytes + BlockHeader.bytes < UInt64.size ∧
      memory.readHeader (Buffer.blockOf address) =
        ⟨BlockHeader.live, Buffer.mark bytes, bytes⟩ := by
  obtain ⟨room, bound, header⟩ := holds.headers address bytes member
  refine ⟨room, bound, ?_⟩
  rw [Memory.readHeader_congr agrees, header]

theorem kept {other : Heap} (holds : heap.Holds stock) (sameAllocator : other.pages = heap.pages)
    (sameLists : other.freeLists = heap.freeLists)
    (bitmaps : other.memory.Agrees heap.memory heap.pages.bitmaps.start heap.pages.bitmaps.stop)
    (free : ∀ sizeClass : SizeClass, ∀ block ∈ stock.chains sizeClass,
      other.memory.Agrees heap.memory block (block + BlockHeader.freeBytes))
    (headers : ∀ address bytes, Buffer.pool address bytes ∈ stock.live →
      other.memory.Agrees heap.memory (Buffer.blockOf address)
        (Buffer.blockOf address + BlockHeader.bytes)) :
    other.Holds stock where
  shape := sameAllocator ▸ holds.shape
  records := by
    rw [sameAllocator]
    exact holds.records.congr bitmaps
  linked sizeClass := by
    rw [firstFree, sameLists]
    exact (holds.linked sizeClass).congr (free sizeClass)
  stocked := holds.stocked
  headers address bytes member := holds.header_kept member (headers address bytes member)

theorem stored (holds : heap.Holds stock) {buffer : Buffer} {memory : Memory}
    (member : buffer ∈ stock.live)
    (agrees : ∀ span : Span, buffer.span.Apart span →
      memory.Agrees heap.memory span.start span.stop) :
    (heap.withMemory memory).Holds stock := by
  have inside := holds.span_within_extent member
  refine holds.kept rfl rfl ?_ ?_ ?_
  · refine agrees heap.pages.bitmaps (Span.Apart.symm ?_)
    exact (holds.bitmaps_apart (holds.extent_within member)).mono_right inside
  · intro sizeClass block free
    refine agrees ⟨block, block + BlockHeader.freeBytes⟩ ?_
    exact ((holds.free_apart member free).mono_left inside).mono_right (freeBytes_within _ _)
  · intro address bytes other
    refine agrees ⟨Buffer.blockOf address, _⟩ ?_
    by_cases same : buffer = .pool address bytes
    · subst buffer
      have room := (holds.headers address bytes other).1
      simp only [Span.Apart, Buffer.span, Buffer.blockOf]
      omega
    · have apart := holds.live_apart_of_ne member other same
      exact (apart.mono_left inside).mono_right (holds.header_within_extent other)

theorem written (holds : heap.Holds stock) {buffer : Buffer} (member : buffer ∈ stock.live)
    (address : Nat) (bytes : List UInt8)
    (inside : Span.Within ⟨address, address + bytes.length⟩ buffer.span) :
    (heap.withMemory (heap.memory.writeBytes address bytes)).Holds stock := by
  refine holds.stored member ?_
  intro span apart
  have away := apart.mono_left inside
  refine Memory.agrees_writeBytes ?_
  simp only [Span.Apart] at away
  omega

theorem headed (holds : heap.Holds stock) {base count : Nat} (header : BlockHeader)
    (member : .pages base count ∈ stock.live) (room : BlockHeader.bytes ≤ Page.bytes count) :
    (heap.withMemory (heap.memory.writeHeader base header)).Holds stock := by
  refine holds.stored member ?_
  intro span apart
  refine Memory.agrees_writeHeader ?_
  simp only [Span.Apart, Buffer.span] at apart
  omega

theorem perm (holds : heap.Holds stock) {live : List Buffer} (permuted : stock.live.Perm live) :
    heap.Holds (stock.withLive live) where
  shape := holds.shape
  records := holds.records.perm ((permuted.filterMap _).append_right _)
  linked := holds.linked
  stocked sizeClass :=
    ((permuted.filterMap _).symm.append_left _).trans (holds.stocked sizeClass)
  headers address bytes member := holds.headers address bytes (permuted.mem_iff.mpr member)

/-! Pages. What happens to them changes the bitmaps and no other memory. -/

theorem linked_outside (holds : heap.Holds stock) {memory : Memory}
    (agrees : ∀ span : Span, heap.pages.bitmaps.Apart span →
      memory.Agrees heap.memory span.start span.stop) (sizeClass : SizeClass) :
    memory.Linked sizeClass (heap.firstFree sizeClass) (stock.chains sizeClass) := by
  refine (holds.linked sizeClass).congr ?_
  intro block free
  have apart := holds.bitmaps_apart (holds.block_within (holds.chain_block free))
  exact agrees ⟨block, _⟩ (apart.mono_right (freeBytes_within sizeClass block))

theorem header_outside (holds : heap.Holds stock) {memory : Memory}
    (agrees : ∀ span : Span, heap.pages.bitmaps.Apart span →
      memory.Agrees heap.memory span.start span.stop) {address bytes : Nat}
    (member : .pool address bytes ∈ stock.live) :
    BlockHeader.bytes ≤ address ∧ bytes + BlockHeader.bytes < UInt64.size ∧
      memory.readHeader (Buffer.blockOf address) =
        ⟨BlockHeader.live, Buffer.mark bytes, bytes⟩ := by
  have apart := holds.bitmaps_apart (holds.extent_within member)
  exact holds.header_kept member (agrees ⟨Buffer.blockOf address, _⟩
    (apart.mono_right (holds.header_within_extent member)))

theorem agrees_granted (holds : heap.Holds stock) {index count : Nat}
    (vacant : heap.pages.Vacant heap.memory index count) (span : Span)
    (apart : heap.pages.bitmaps.Apart span) :
    (heap.granted index count).memory.Agrees heap.memory span.start span.stop := by
  have covered := holds.shape.covered
  have inside := vacant.inside
  intro address lower upper
  refine PagePool.read_stamp_outside (by omega) vacant.positive ?_
  simp only [Span.Apart, PagePool.bitmaps] at apart
  omega

theorem granted (holds : heap.Holds stock) {index count : Nat}
    (vacant : heap.pages.Vacant heap.memory index count) :
    (heap.granted index count).Holds
      (stock.withLive (.pages (heap.pages.address index) count :: stock.live)) where
  shape := ⟨holds.shape.covered, holds.shape.room, holds.shape.aligned, holds.shape.bounded⟩
  records := holds.records.mark holds.shape vacant
  linked := holds.linked_outside (holds.agrees_granted vacant)
  stocked := holds.stocked
  headers address bytes member := by
    have old : .pool address bytes ∈ stock.live := by
      simpa [Stock.withLive] using member
    exact holds.header_outside (holds.agrees_granted vacant) old

theorem released (holds : heap.Holds stock) {base count : Nat} {rest : List Buffer}
    (first : stock.live = .pages base count :: rest) :
    ∃ later, (freePages base count).outcome heap = (.ok (), later) ∧
      later.Holds (stock.withLive rest) ∧
      ∀ span : Span, heap.pages.bitmaps.Apart span →
        later.memory.Agrees heap.memory span.start span.stop := by
  have grants : stock.grants = ⟨base, count⟩ :: (stock.withLive rest).grants := by
    rw [Stock.grants, first]
    rfl
  have member : ⟨base, count⟩ ∈ stock.grants := by
    rw [grants]
    exact List.mem_cons_self
  obtain ⟨index, place, positive, inside⟩ := holds.records.placed _ member
  change base = _ at place
  change index + count ≤ _ at inside
  have found := (holds.records.grantIndex?_iff holds.shape base count index).mpr ⟨place, member⟩
  have covered := holds.shape.covered
  have agrees : ∀ span : Span, heap.pages.bitmaps.Apart span →
      (heap.withPages (heap.pages.unmark heap.memory index count)).memory.Agrees heap.memory
        span.start span.stop := by
    intro span apart address lower upper
    refine PagePool.read_stamp_outside (by omega) positive ?_
    simp only [Span.Apart, PagePool.bitmaps] at apart
    omega
  refine ⟨heap.withPages (heap.pages.unmark heap.memory index count), ?_, ?_, agrees⟩
  · rw [outcome_freePages, found]
  · constructor
    · exact ⟨holds.shape.covered, holds.shape.room, holds.shape.aligned, holds.shape.bounded⟩
    · subst base
      have records := holds.records.unmark holds.shape member
      rw [grants, List.erase_cons_head] at records
      exact records
    · exact holds.linked_outside agrees
    · intro sizeClass
      have stocked := holds.stocked sizeClass
      rw [Stock.liveBlocks, first] at stocked
      exact stocked
    · intro address bytes live
      have old : .pool address bytes ∈ stock.live := by
        rw [first]
        exact List.mem_cons_of_mem _ live
      exact holds.header_outside agrees old

/-! Large buffers, which are pages with a header in front. -/

theorem large_as_pages {address bytes : Nat}
    (large : BlockHeader.largestBlock < bytes + BlockHeader.bytes) (sizeClass : SizeClass) :
    (Buffer.pool address bytes).grant? =
        (Buffer.pages (Buffer.blockOf address)
          (Page.spanning (bytes + BlockHeader.bytes))).grant? ∧
      (Buffer.pool address bytes).block? sizeClass = none :=
  ⟨if_pos large, if_neg (by omega)⟩

theorem as_pages (holds : heap.Holds stock) {address bytes : Nat} {rest : List Buffer}
    (first : stock.live = .pool address bytes :: rest)
    (large : BlockHeader.largestBlock < bytes + BlockHeader.bytes) :
    heap.Holds (stock.withLive
      (.pages (Buffer.blockOf address) (Page.spanning (bytes + BlockHeader.bytes)) :: rest)) where
  shape := holds.shape
  records := by
    have records := holds.records
    rw [Stock.grants, first, List.filterMap_cons, (large_as_pages large 0).1] at records
    exact records
  linked := holds.linked
  stocked sizeClass := by
    have stocked := holds.stocked sizeClass
    rw [Stock.liveBlocks, first, List.filterMap_cons, (large_as_pages large sizeClass).2]
      at stocked
    exact stocked
  headers other size member := by
    rcases List.mem_cons.mp member with impossible | old
    · cases impossible
    · refine holds.headers other size ?_
      rw [first]
      exact List.mem_cons_of_mem _ old

theorem as_large (holds : heap.Holds stock) {block bytes : Nat} {rest : List Buffer}
    (first : stock.live = .pages block (Page.spanning (bytes + BlockHeader.bytes)) :: rest)
    (large : BlockHeader.largestBlock < bytes + BlockHeader.bytes)
    (bound : bytes + BlockHeader.bytes < UInt64.size) :
    (heap.withMemory (heap.memory.writeHeader block
      ⟨BlockHeader.live, BlockHeader.largeClass, bytes⟩)).Holds
      (stock.withLive (.pool (block + BlockHeader.bytes) bytes :: rest)) := by
  have whole := Page.le_spanning (bytes + BlockHeader.bytes)
  have marked := holds.headed ⟨BlockHeader.live, BlockHeader.largeClass, bytes⟩
    (first ▸ List.mem_cons_self) (by omega)
  have place : Buffer.blockOf (block + BlockHeader.bytes) = block := Nat.add_sub_cancel ..
  constructor
  · exact marked.shape
  · have records := marked.records
    rw [Stock.grants, first, List.filterMap_cons] at records
    rw [Stock.grants, Stock.withLive, List.filterMap_cons, (large_as_pages large 0).1, place]
    exact records
  · exact marked.linked
  · intro sizeClass
    have stocked := marked.stocked sizeClass
    rw [Stock.liveBlocks, first, List.filterMap_cons] at stocked
    rw [Stock.liveBlocks, Stock.withLive, List.filterMap_cons, (large_as_pages large sizeClass).2]
    exact stocked
  · intro address length live
    rcases List.mem_cons.mp live with same | old
    · cases same
      refine ⟨Nat.le_add_left _ _, bound, ?_⟩
      rw [place, Buffer.mark, if_pos large, Heap.withMemory_memory]
      exact Memory.readHeader_writeHeader
        (BlockHeader.live_fits (show BlockHeader.largeClass < _ by decide) bound)
    · refine marked.headers address length ?_
      rw [first]
      exact List.mem_cons_of_mem _ old

end Heap.Holds

end PartitionBoot