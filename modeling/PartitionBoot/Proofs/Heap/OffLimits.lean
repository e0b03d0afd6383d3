import PartitionBoot.Proofs.Heap.BufferSteps

/-!
Memory that the heap keeps its hands off. An address is off limits while a client holds it, and
always when it lies outside the heap. Every change of a heap is shown to leave such addresses as
they were.
-/

namespace PartitionBoot

def PagePool.OffLimits (pool : PagePool) (live : List Buffer) (address : Nat) : Prop :=
  (∃ buffer ∈ live, buffer.span.Covers address) ∨
    ¬ pool.bitmaps.Covers address ∧ ¬ pool.span.Covers address

namespace Heap

/-- A later state of a heap: the ground it lies on is the same, and so are all bytes that were off
limits while these buffers were live. -/
structure Spares (later earlier : Heap) (live : List Buffer) : Prop where
  bitmaps : later.pages.bitmaps = earlier.pages.bitmaps
  span : later.pages.span = earlier.pages.span
  kept : ∀ address, earlier.pages.OffLimits live address →
    later.memory.read address = earlier.memory.read address

namespace Spares

variable {last middle first : Heap} {live more : List Buffer}

theorem refl (heap : Heap) (live : List Buffer) : heap.Spares heap live :=
  ⟨rfl, rfl, fun _ _ => rfl⟩

theorem trans (after : last.Spares middle live) (before : middle.Spares first live) :
    last.Spares first live where
  bitmaps := after.bitmaps.trans before.bitmaps
  span := after.span.trans before.span
  kept address off := by
    have still : middle.pages.OffLimits live address := by
      rw [PagePool.OffLimits, before.bitmaps, before.span]
      exact off
    rw [after.kept address still, before.kept address off]

theorem mono (spares : last.Spares first more) (fewer : live ⊆ more) :
    last.Spares first live where
  bitmaps := spares.bitmaps
  span := spares.span
  kept address off := by
    refine spares.kept address ?_
    rcases off with ⟨buffer, member, inside⟩ | outside
    · exact Or.inl ⟨buffer, fewer member, inside⟩
    · exact Or.inr outside

end Spares

theorem read_writeHeader_clear (memory : Memory) (block : Nat) (header : BlockHeader)
    {address : Nat} (clear : ¬ Span.Covers ⟨block, block + BlockHeader.bytes⟩ address) :
    (memory.writeHeader block header).read address = memory.read address := by
  have apart := Span.apart_point clear
  simp only [Span.Apart] at apart
  have agrees : (memory.writeHeader block header).Agrees memory address (address + 1) :=
    Memory.agrees_writeHeader (by omega)
  exact agrees address (Nat.le_refl _) (Nat.lt_succ_self _)

namespace Holds

variable {heap : Heap} {stock : Stock} {address : Nat}

/-! What is off limits is neither a bitmap nor a free block, nor set aside for another buffer. -/

theorem off_bitmaps (holds : heap.Holds stock)
    (off : heap.pages.OffLimits stock.live address) : ¬ heap.pages.bitmaps.Covers address := by
  rcases off with ⟨buffer, member, inside⟩ | ⟨outside, _⟩
  · have within := holds.span_within_extent member
    exact ((holds.bitmaps_apart (holds.extent_within member)).mono_right within).not_covers inside
  · exact outside

theorem off_free (holds : heap.Holds stock) {sizeClass : SizeClass} {block : Nat}
    (free : block ∈ stock.chains sizeClass) (off : heap.pages.OffLimits stock.live address) :
    ¬ (sizeClass.span block).Covers address := by
  rcases off with ⟨buffer, member, inside⟩ | ⟨_, outside⟩
  · have within := holds.span_within_extent member
    exact ((holds.free_apart member free).mono_left within).symm.not_covers inside
  · exact fun covers => outside
      ((holds.block_within (holds.chain_block free)).1.covers covers)

theorem off_extent (holds : heap.Holds stock) {buffer : Buffer} {rest : List Buffer}
    (first : stock.live = buffer :: rest) (off : heap.pages.OffLimits rest address) :
    ¬ buffer.extent.Covers address := by
  have mine : buffer ∈ stock.live := first ▸ List.mem_cons_self
  rcases off with ⟨other, member, inside⟩ | ⟨_, outside⟩
  · have apart := holds.live_apart
    rw [first, List.pairwise_cons] at apart
    have within := holds.span_within_extent (first ▸ List.mem_cons_of_mem _ member)
    exact ((apart.1 other member).mono_right within).not_covers inside
  · exact fun covers => outside ((holds.extent_within mine).1.covers covers)

/-! Each change of a heap. -/

theorem spares_granted (holds : heap.Holds stock) {index count : Nat}
    (vacant : heap.pages.Vacant heap.memory index count) :
    (heap.granted index count).Spares heap stock.live where
  bitmaps := rfl
  span := rfl
  kept address off := holds.agrees_granted vacant ⟨address, address + 1⟩
    (Span.apart_point (holds.off_bitmaps off)) address (Nat.le_refl _) (Nat.lt_succ_self _)

theorem spares_released (holds : heap.Holds stock) {base count : Nat} {rest : List Buffer}
    (first : stock.live = .pages base count :: rest) :
    ((freePages base count).outcome heap).2.Spares heap rest := by
  obtain ⟨later, freed, _, agrees⟩ := holds.released first
  have ground : later.pages.bitmaps = heap.pages.bitmaps ∧ later.pages.span = heap.pages.span := by
    rw [outcome_freePages] at freed
    split at freed
    · cases freed
    · cases freed
      exact ⟨rfl, rfl⟩
  rw [freed]
  refine ⟨ground.1, ground.2, fun address off => ?_⟩
  have clear : ¬ heap.pages.bitmaps.Covers address := by
    rcases off with ⟨buffer, member, inside⟩ | ⟨outside, _⟩
    · exact holds.off_bitmaps (Or.inl ⟨buffer, first ▸ List.mem_cons_of_mem _ member, inside⟩)
    · exact outside
  exact agrees ⟨address, address + 1⟩ (Span.apart_point clear) address (Nat.le_refl _)
    (Nat.lt_succ_self _)

theorem spares_headed (holds : heap.Holds stock) {buffer : Buffer} {rest : List Buffer}
    (first : stock.live = buffer :: rest) {block : Nat} (header : BlockHeader)
    (within : Span.Within ⟨block, block + BlockHeader.bytes⟩ buffer.extent) :
    (heap.withMemory (heap.memory.writeHeader block header)).Spares heap rest where
  bitmaps := rfl
  span := rfl
  kept address off := by
    have clear := holds.off_extent first off
    rw [withMemory_memory]
    exact read_writeHeader_clear _ _ _ fun covers => clear (within.covers covers)

theorem spares_written (holds : heap.Holds stock) {buffer : Buffer} {rest : List Buffer}
    (first : stock.live = buffer :: rest) {start : Nat} {bytes : List UInt8}
    (within : Span.Within ⟨start, start + bytes.length⟩ buffer.span) :
    (heap.withMemory (heap.memory.writeBytes start bytes)).Spares heap rest where
  bitmaps := rfl
  span := rfl
  kept address off := by
    have inExtent := within.trans (holds.span_within_extent (first ▸ List.mem_cons_self))
    have apart := Span.apart_point fun covers =>
      holds.off_extent first off (inExtent.covers covers)
    refine Memory.read_writeBytes_outside _ _ _ _ ?_
    simp only [Span.Apart] at apart
    omega

theorem spares_handedOut (holds : heap.Holds stock) {sizeClass : SizeClass} {block : Nat}
    {rest : List Nat} (chain : stock.chains sizeClass = block :: rest) (bytes : Nat) :
    (heap.handedOut sizeClass block bytes).Spares heap stock.live where
  bitmaps := rfl
  span := rfl
  kept address off := by
    have clear := holds.off_free (chain ▸ List.mem_cons_self) off
    rw [handedOut_memory]
    exact read_writeHeader_clear _ _ _ fun covers =>
      clear ((header_within_block sizeClass block).covers covers)

theorem spares_pushed (holds : heap.Holds stock) {buffer : Buffer} {rest : List Buffer}
    (first : stock.live = buffer :: rest) {sizeClass : SizeClass} {blocks : List Nat}
    (within : ∀ block ∈ blocks, (sizeClass.span block).Within buffer.extent) :
    (heap.pushAll sizeClass blocks).Spares heap rest where
  bitmaps := by rw [pushAll_pages]
  span := by rw [pushAll_pages]
  kept address off := by
    have clear := holds.off_extent first off
    have agrees : (heap.pushAll sizeClass blocks).memory.Agrees heap.memory address
        (address + 1) := by
      refine pushAll_agrees ?_
      intro block member
      have apart := Span.apart_point fun covers =>
        clear (((freeBytes_within sizeClass block).trans (within block member)).covers covers)
      simp only [Span.Apart] at apart
      omega
    exact agrees address (Nat.le_refl _) (Nat.lt_succ_self _)

theorem spares_stocked (holds : heap.Holds stock) {sizeClass : SizeClass} {ready : Heap}
    {next : Stock} (stocked : heap.Stocked stock sizeClass ready next) :
    ready.Spares heap stock.live := by
  cases stocked with
  | already => exact Spares.refl _ _
  | carved index vacant =>
      refine Spares.trans ?_ (holds.spares_granted vacant)
      exact (holds.granted vacant).spares_pushed rfl fun _ inPage =>
        SizeClass.span_within_page inPage

/-! Each request. -/

theorem spares_allocatePages (holds : heap.Holds stock) (count : Nat) :
    ((Heap.allocatePages count).outcome heap).2.Spares heap stock.live := by
  rcases allocatePages_cases count heap with refused | ⟨index, vacant, granted⟩
  · rw [refused]
    exact Spares.refl _ _
  · rw [granted]
    exact holds.spares_granted vacant

theorem spares_allocateBytes (holds : heap.Holds stock) (bytes : Nat) :
    ((Heap.allocateBytes bytes).outcome heap).2.Spares heap stock.live := by
  rcases holds.allocateBytes_cases bytes with refused | ⟨large, bound, index, vacant, granted⟩ |
    ⟨small, sizeClass, ready, next, block, rest, chosen, stocked, chain, served⟩
  · rw [refused]
    exact Spares.refl _ _
  · have whole := Page.le_spanning (bytes + BlockHeader.bytes)
    rw [granted]
    refine Spares.trans ?_ (holds.spares_granted vacant)
    refine (holds.granted vacant).spares_headed rfl _ ?_
    simp only [Span.Within, Buffer.extent, Grant.span, Grant.stop]
    omega
  · rw [served]
    refine Spares.trans ?_ (holds.spares_stocked stocked)
    rw [← stocked.live]
    exact (stocked.holds holds).spares_handedOut chain bytes

theorem spares_freeBytes (holds : heap.Holds stock) {buffer bytes : Nat} {rest : List Buffer}
    (first : stock.live = .pool buffer bytes :: rest) :
    ((Heap.freeBytes buffer).outcome heap).2.Spares heap rest := by
  have member : .pool buffer bytes ∈ stock.live := first ▸ List.mem_cons_self
  rw [holds.outcome_freeBytes member]
  by_cases large : BlockHeader.largestBlock < bytes + BlockHeader.bytes
  · rw [if_pos large]
    refine ((holds.blotted first large).spares_released rfl).trans ?_
    exact holds.spares_headed first _ (holds.header_within_extent member)
  · rw [if_neg large]
    have within : ∀ block ∈ [Buffer.blockOf buffer],
        ((SizeClass.holding (bytes + BlockHeader.bytes)).span block).Within
          (Buffer.pool buffer bytes).extent := by
      intro block only
      rw [List.mem_singleton.mp only, (Buffer.small_as_block (by omega) rfl buffer).2.2.1]
      exact ⟨Nat.le_refl _, Nat.le_refl _⟩
    exact holds.spares_pushed first within

end Holds

end Heap

end PartitionBoot
