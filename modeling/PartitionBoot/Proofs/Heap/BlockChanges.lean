import PartitionBoot.Proofs.Heap.StockChanges

/-!
How small blocks move: off a free list into the hands of a client, back in front of the list, and
onto the list when a page is carved up.
-/

namespace PartitionBoot

namespace Buffer

variable {block bytes : Nat} {sizeClass : SizeClass}

theorem small_as_block (small : bytes + BlockHeader.bytes ≤ BlockHeader.largestBlock)
    (chosen : SizeClass.holding (bytes + BlockHeader.bytes) = sizeClass) (address : Nat) :
    (pool address bytes).grant? = none ∧ mark bytes = sizeClass.val ∧
      (pool address bytes).extent = sizeClass.span (blockOf address) ∧
      ∀ other, (pool address bytes).block? other =
        if other = sizeClass then some (blockOf address) else none := by
  subst sizeClass
  refine ⟨if_neg (by omega), if_neg (by omega), if_neg (by omega), ?_⟩
  intro other
  by_cases same : other = SizeClass.holding (bytes + BlockHeader.bytes)
  · rw [if_pos same]
    exact if_pos ⟨small, same.symm⟩
  · rw [if_neg same]
    exact if_neg fun both => same both.2.symm

theorem blockOf_add (block : Nat) : blockOf (block + BlockHeader.bytes) = block :=
  Nat.add_sub_cancel ..

end Buffer

namespace Heap

def detached (heap : Heap) (sizeClass : SizeClass) (block : Nat) : Heap :=
  { heap with
    freeLists := heap.freeLists.setIfInBounds sizeClass.val
      (heap.memory.readNumber (block + BlockHeader.bytes) 8) }

def handedOut (heap : Heap) (sizeClass : SizeClass) (block bytes : Nat) : Heap :=
  (heap.detached sizeClass block).withMemory
    (heap.memory.writeHeader block ⟨BlockHeader.live, sizeClass.val, bytes⟩)

theorem handedOut_memory (heap : Heap) (sizeClass : SizeClass) (block bytes : Nat) :
    (heap.handedOut sizeClass block bytes).memory =
      heap.memory.writeHeader block ⟨BlockHeader.live, sizeClass.val, bytes⟩ := by
  simp only [handedOut, withMemory_memory]

theorem firstFree_handedOut (heap : Heap) (sizeClass other : SizeClass) (block bytes : Nat) :
    (heap.handedOut sizeClass block bytes).firstFree other =
      if sizeClass = other then heap.memory.readNumber (block + BlockHeader.bytes) 8
      else heap.firstFree other := by
  simp only [firstFree, handedOut, withMemory, detached, setIfInBounds_eq_set,
    get_set]

namespace Holds

variable {heap : Heap} {stock : Stock}

theorem block_fits (holds : heap.Holds stock) {sizeClass : SizeClass} {block : Nat}
    (member : block ∈ stock.blocks sizeClass) : block ≠ 0 ∧ block < UInt64.size := by
  obtain ⟨within, positive⟩ := holds.block_within member
  have room := holds.shape.room positive
  have covered := holds.shape.covered
  have bounded := holds.shape.bounded
  have size := sizeClass.blockSize_bounds
  simp only [Span.Within, SizeClass.span, PagePool.span] at within
  omega

theorem header_within_block (sizeClass : SizeClass) (block : Nat) :
    Span.Within ⟨block, block + BlockHeader.bytes⟩ (sizeClass.span block) := by
  have bounds := sizeClass.blockSize_bounds
  have size : BlockHeader.bytes = 16 := rfl
  simp only [Span.Within, SizeClass.span]
  omega

theorem handedOut (holds : heap.Holds stock) {sizeClass : SizeClass} {block bytes : Nat}
    {rest : List Nat} (chain : stock.chains sizeClass = block :: rest)
    (small : bytes + BlockHeader.bytes ≤ BlockHeader.largestBlock)
    (chosen : SizeClass.holding (bytes + BlockHeader.bytes) = sizeClass) :
    (heap.handedOut sizeClass block bytes).Holds
      ((stock.withChain sizeClass rest).withLive
        (.pool (block + BlockHeader.bytes) bytes :: stock.live)) := by
  obtain ⟨whole, mark, extent, blocks⟩ :=
    Buffer.small_as_block small chosen (block + BlockHeader.bytes)
  rw [Buffer.blockOf_add] at extent blocks
  have free : block ∈ stock.chains sizeClass := by
    rw [chain]
    exact List.mem_cons_self
  -- Only the header of the block is written.
  have agrees : ∀ span : Span, (sizeClass.span block).Apart span →
      (heap.handedOut sizeClass block bytes).memory.Agrees heap.memory span.start span.stop := by
    intro span apart
    have away := apart.mono_left (header_within_block sizeClass block)
    rw [handedOut_memory]
    refine Memory.agrees_writeHeader ?_
    simp only [Span.Apart] at away
    omega
  constructor
  · exact holds.shape
  · have bitmaps := holds.bitmaps_apart (holds.block_within (holds.chain_block free))
    have grants : ((stock.withChain sizeClass rest).withLive
        (.pool (block + BlockHeader.bytes) bytes :: stock.live)).grants = stock.grants := by
      simp only [Stock.grants, Stock.withLive, Stock.withChain, List.filterMap_cons, whole]
    rw [grants]
    exact holds.records.congr (agrees heap.pages.bitmaps bitmaps.symm)
  · intro other
    have linked := holds.linked other
    simp only [Stock.withLive, Stock.withChain_chains, firstFree_handedOut]
    by_cases same : sizeClass = other
    · subst other
      rw [if_pos rfl, if_pos rfl]
      rw [chain] at linked
      refine linked.2.2.2.congr ?_
      intro later member
      have apart := holds.chain_apart sizeClass
      rw [chain, List.pairwise_cons] at apart
      exact agrees ⟨later, _⟩ ((apart.1 later member).mono_right (freeBytes_within _ _))
    · rw [if_neg same, if_neg (Ne.symm same)]
      refine linked.congr ?_
      intro later member
      have apart := holds.classes_apart same (holds.chain_block free) (holds.chain_block member)
      exact agrees ⟨later, _⟩ (apart.mono_right (freeBytes_within _ _))
  · intro other
    have stocked := holds.stocked other
    simp only [Stock.withLive, Stock.withChain_chains, Stock.liveBlocks, List.filterMap_cons,
      blocks]
    by_cases same : other = sizeClass
    · subst other
      rw [if_pos rfl, if_pos rfl]
      rw [chain] at stocked
      exact List.perm_middle.trans stocked
    · rw [if_neg same, if_neg same]
      exact stocked
  · intro address length live
    rcases List.mem_cons.mp live with same | old
    · cases same
      have limit : bytes + BlockHeader.bytes < UInt64.size :=
        Nat.lt_of_le_of_lt small (by decide)
      refine ⟨Nat.le_add_left _ _, limit, ?_⟩
      rw [Buffer.blockOf_add, mark, handedOut_memory]
      exact Memory.readHeader_writeHeader
        (BlockHeader.live_fits (Nat.lt_trans sizeClass.isLt (by decide)) limit)
    · have apart := (holds.free_apart old free).symm
      exact holds.header_kept old (agrees ⟨Buffer.blockOf address, _⟩
        (apart.mono_right (holds.header_within_extent old)))

theorem freeBytes_apart {first second : SizeClass} {left right : Nat}
    (apart : (first.span left).Apart (second.span right)) :
    left + BlockHeader.freeBytes ≤ right ∨ right + BlockHeader.freeBytes ≤ left :=
  (apart.mono_left (freeBytes_within first left)).mono_right (freeBytes_within second right)

theorem takenBack (holds : heap.Holds stock) {sizeClass : SizeClass} {address bytes : Nat}
    {rest : List Buffer} (first : stock.live = .pool address bytes :: rest)
    (small : bytes + BlockHeader.bytes ≤ BlockHeader.largestBlock)
    (chosen : SizeClass.holding (bytes + BlockHeader.bytes) = sizeClass) :
    (heap.push sizeClass (Buffer.blockOf address)).Holds
      ((stock.withChain sizeClass (Buffer.blockOf address :: stock.chains sizeClass)).withLive
        rest) := by
  obtain ⟨whole, _, extent, blocks⟩ := Buffer.small_as_block small chosen address
  have member : .pool address bytes ∈ stock.live := by
    rw [first]
    exact List.mem_cons_self
  have mine := holds.live_block member (blocks sizeClass ▸ if_pos rfl)
  obtain ⟨nonzero, _⟩ := holds.block_fits mine
  have away : ∀ other : SizeClass, ∀ block ∈ stock.chains other,
      (sizeClass.span (Buffer.blockOf address)).Apart (other.span block) := by
    intro other block free
    rw [← extent]
    exact holds.free_apart member free
  constructor
  · exact holds.shape
  · have grants : ((stock.withChain sizeClass
        (Buffer.blockOf address :: stock.chains sizeClass)).withLive rest).grants =
          stock.grants := by
      simp only [Stock.grants, Stock.withLive, Stock.withChain, first, List.filterMap_cons, whole]
    have bitmaps := (holds.bitmaps_apart (holds.block_within mine)).mono_right
      (freeBytes_within _ _)
    rw [grants]
    exact holds.records.congr (push_agrees heap sizeClass bitmaps)
  · intro other
    have linked := holds.linked other
    simp only [Stock.withLive, Stock.withChain_chains]
    by_cases same : other = sizeClass
    · subst other
      rw [if_pos rfl]
      refine push_linked linked nonzero ?_ fun block free =>
        (freeBytes_apart (away sizeClass block free)).symm
      exact linked.head_lt fun block free => (holds.block_fits (holds.chain_block free)).2
    · rw [if_neg same, firstFree_push, if_neg (Ne.symm same)]
      refine linked.congr fun block free => push_agrees heap sizeClass ?_
      exact (freeBytes_apart (away other block free)).symm
  · intro other
    have stocked := holds.stocked other
    simp only [Stock.liveBlocks, first, List.filterMap_cons, blocks] at stocked
    simp only [Stock.withLive, Stock.withChain_chains, Stock.liveBlocks]
    by_cases same : other = sizeClass
    · subst other
      rw [if_pos rfl] at stocked ⊢
      exact List.perm_middle.symm.trans stocked
    · rw [if_neg same] at stocked ⊢
      exact stocked
  · intro other length live
    have old : .pool other length ∈ stock.live := by
      rw [first]
      exact List.mem_cons_of_mem _ live
    have apart := holds.live_apart
    rw [first, List.pairwise_cons] at apart
    have far := (apart.1 _ live).mono_right (holds.header_within_extent old)
    rw [extent] at far
    exact holds.header_kept old (push_agrees heap sizeClass
      (far.mono_left (freeBytes_within sizeClass _)).symm)

theorem refilled (holds : heap.Holds stock) {sizeClass : SizeClass} {index : Nat}
    (vacant : heap.pages.Vacant heap.memory index 1) :
    ((heap.granted index 1).pushAll sizeClass
        (sizeClass.pageBlocks (heap.pages.address index))).Holds
      ({ stock with carved := (heap.pages.address index, sizeClass) :: stock.carved }.withChain
        sizeClass (sizeClass.pageBlocks (heap.pages.address index) ++ stock.chains sizeClass)) := by
  generalize place : heap.pages.address index = page
  have granted := holds.granted vacant
  rw [place] at granted
  have member : Buffer.pages page 1 ∈ Buffer.pages page 1 :: stock.live := List.mem_cons_self
  have inPage : ∀ block ∈ sizeClass.pageBlocks page,
      (sizeClass.span block).Within (Buffer.pages page 1).extent :=
    fun block inBlocks => SizeClass.span_within_page inBlocks
  -- Only the page that was just granted is written.
  have agrees : ∀ span : Span, (Buffer.pages page 1).extent.Apart span →
      ((heap.granted index 1).pushAll sizeClass (sizeClass.pageBlocks page)).memory.Agrees
        (heap.granted index 1).memory span.start span.stop := by
    intro span apart
    refine pushAll_agrees ?_
    intro block inBlocks
    exact ((apart.mono_left (inPage block inBlocks)).mono_left (freeBytes_within _ _)).symm
  have fits : ∀ block ∈ sizeClass.pageBlocks page, block ≠ 0 ∧ block < UInt64.size := by
    intro block inBlocks
    obtain ⟨within, positive⟩ := granted.extent_within member
    have inside := (inPage block inBlocks).trans within
    have room := granted.shape.room positive
    have covered := granted.shape.covered
    have bounded := granted.shape.bounded
    have size := sizeClass.blockSize_bounds
    simp only [Span.Within, SizeClass.span, PagePool.span] at inside
    omega
  constructor
  · rw [pushAll_pages]
    exact granted.shape
  · have bitmaps := granted.bitmaps_apart (granted.extent_within member)
    rw [pushAll_pages]
    refine (granted.records.congr (agrees _ bitmaps.symm)).perm ?_
    exact List.perm_middle.symm
  · intro other
    have linked := granted.linked other
    simp only [Stock.withChain_chains]
    by_cases same : other = sizeClass
    · subst other
      rw [if_pos rfl]
      refine pushAll_linked linked (fun block inBlocks => (fits block inBlocks).1) ?_ ?_
      · intro block inBlocks
        rcases List.mem_append.mp inBlocks with new | old
        · exact (fits block new).2
        · exact (holds.block_fits (holds.chain_block old)).2
      · rw [List.pairwise_append]
        refine ⟨(sizeClass.pageBlocks_apart page).imp freeBytes_apart,
          (holds.chain_apart sizeClass).imp freeBytes_apart, ?_⟩
        intro block new old free
        have apart := granted.free_apart member free
        exact freeBytes_apart (apart.mono_left (inPage block new))
    · rw [if_neg same, firstFree_pushAll (Ne.symm same)]
      refine linked.congr ?_
      intro block free
      have apart := granted.free_apart member free
      exact agrees ⟨block, _⟩ (apart.mono_right (freeBytes_within other block))
  · intro other
    have stocked := holds.stocked other
    simp only [Stock.withChain_chains, Stock.blocks, Stock.withChain_carved, List.flatMap_cons]
    by_cases same : other = sizeClass
    · subst other
      rw [if_pos rfl, if_pos rfl, List.append_assoc]
      exact stocked.append_left _
    · rw [if_neg same, if_neg (Ne.symm same), List.nil_append]
      exact stocked
  · intro address length live
    have old : .pool address length ∈ Buffer.pages page 1 :: stock.live :=
      List.mem_cons_of_mem _ live
    have apart := granted.live_apart
    rw [Stock.withLive, List.pairwise_cons] at apart
    have far := (apart.1 _ live).mono_right (granted.header_within_extent old)
    exact granted.header_kept old (agrees ⟨Buffer.blockOf address, _⟩ far)

end Holds

end Heap

end PartitionBoot
