import PartitionBoot.Proofs.Heap.BlockChanges

/-!
What the byte pool does to its stock: a request either changes nothing or adds one live buffer, and
giving a live buffer back always goes well.
-/

namespace PartitionBoot

def Stock.restocked (stock : Stock) (sizeClass : SizeClass) (page : Nat) : Stock :=
  { stock with carved := (page, sizeClass) :: stock.carved }.withChain sizeClass
    (sizeClass.pageBlocks page ++ stock.chains sizeClass)

namespace Heap

def Supplies (request : Step Heap HeapFault (Option Nat)) (heap : Heap) (stock : Stock)
    (buffer : Nat → Buffer) : Prop :=
  request.outcome heap = (.ok none, heap) ∨
    ∃ address later next, request.outcome heap = (.ok (some address), later) ∧
      later.Holds next ∧ next.live = buffer address :: stock.live

theorem outcome_enliven (block sizeClass bytes : Nat) (heap : Heap) :
    (enliven block sizeClass bytes).outcome heap = (.ok (block + BlockHeader.bytes),
      heap.withMemory (heap.memory.writeHeader block ⟨BlockHeader.live, sizeClass, bytes⟩)) := by
  simp only [enliven, Step.outcome_bind, Step.outcome_modify, Step.outcome_pure, withMemory]

theorem outcome_refill (sizeClass : SizeClass) (heap : Heap) :
    (refill sizeClass).outcome heap =
      match heap.pages.findFree heap.memory 1 with
      | none => (.ok false, heap)
      | some index => (.ok true, (heap.granted index 1).pushAll sizeClass
          (sizeClass.pageBlocks (heap.pages.address index))) := by
  simp only [refill, Step.outcome_bind, outcome_allocatePages Nat.one_pos]
  cases heap.pages.findFree heap.memory 1 with
  | none => rfl
  | some index =>
      simp only [Step.outcome_bind, Step.outcome_note, Step.outcome_modify, Step.outcome_pure,
        pushAll, SizeClass.pageBlocks, List.foldr_map]

def largeGranted (heap : Heap) (index bytes : Nat) : Heap :=
  let granted := heap.granted index (Page.spanning (bytes + BlockHeader.bytes))
  granted.withMemory (granted.memory.writeHeader (heap.pages.address index)
    ⟨BlockHeader.live, BlockHeader.largeClass, bytes⟩)

def blotted (heap : Heap) (address bytes : Nat) : Heap :=
  heap.withMemory (heap.memory.writeHeader (Buffer.blockOf address) ⟨0, Buffer.mark bytes, bytes⟩)

/-- A heap and its stock once a small request finds the free list of its class filled: as they
were, or with one more page carved into blocks of the class. -/
inductive Stocked (heap : Heap) (stock : Stock) (sizeClass : SizeClass) : Heap → Stock → Prop
  | already : Stocked heap stock sizeClass heap stock
  | carved (index : Nat) : heap.pages.Vacant heap.memory index 1 →
      Stocked heap stock sizeClass
        ((heap.granted index 1).pushAll sizeClass
          (sizeClass.pageBlocks (heap.pages.address index)))
        (stock.restocked sizeClass (heap.pages.address index))

theorem Stocked.holds {heap ready : Heap} {stock next : Stock} {sizeClass : SizeClass}
    (stocked : heap.Stocked stock sizeClass ready next) (holds : heap.Holds stock) :
    ready.Holds next := by
  cases stocked with
  | already => exact holds
  | carved index vacant => exact holds.refilled vacant

theorem Stocked.live {heap ready : Heap} {stock next : Stock} {sizeClass : SizeClass}
    (stocked : heap.Stocked stock sizeClass ready next) : next.live = stock.live := by
  cases stocked with
  | already => rfl
  | carved index vacant => rfl

namespace Holds

variable {heap : Heap} {stock : Stock}

theorem outcome_pop (holds : heap.Holds stock) {sizeClass : SizeClass} {block : Nat}
    {rest : List Nat} (chain : stock.chains sizeClass = block :: rest) :
    (pop sizeClass).outcome heap = (.ok block, heap.detached sizeClass block) := by
  have linked := holds.linked sizeClass
  rw [chain] at linked
  obtain ⟨head, _, header, _⟩ := linked
  change heap.freeLists[sizeClass] = block at head
  simp only [pop, Step.outcome_bind, Step.outcome_get, head, header]
  rw [if_pos ⟨trivial, trivial⟩]
  simp only [Step.outcome_bind, Step.outcome_set, Step.outcome_pure, detached,
    setIfInBounds_eq_set]

theorem outcome_serve (holds : heap.Holds stock) {sizeClass : SizeClass} {block : Nat}
    {rest : List Nat} (chain : stock.chains sizeClass = block :: rest) (bytes : Nat) :
    (pop sizeClass >>= fun block => some <$> enliven block sizeClass.val bytes).outcome heap =
      (.ok (some (block + BlockHeader.bytes)), heap.handedOut sizeClass block bytes) := by
  rw [Step.outcome_bind_ok (holds.outcome_pop chain), Step.outcome_map, outcome_enliven]
  rfl

theorem pageBlocks_eq_cons (sizeClass : SizeClass) (page : Nat) :
    ∃ rest, sizeClass.pageBlocks page = page :: rest := by
  have fill := sizeClass.blocks_fill_page
  rw [SizeClass.pageBlocks]
  cases count : Page.size / sizeClass.blockSize with
  | zero =>
      rw [count, Nat.zero_mul] at fill
      cases fill
  | succ more =>
      rw [List.range_succ_eq_map, List.map_cons, Nat.zero_mul, Nat.add_zero]
      exact ⟨_, rfl⟩

theorem outcome_allocateBytes_listed (holds : heap.Holds stock) {bytes block : Nat}
    {sizeClass : SizeClass} {rest : List Nat}
    (small : bytes + BlockHeader.bytes ≤ BlockHeader.largestBlock)
    (chosen : SizeClass.holding (bytes + BlockHeader.bytes) = sizeClass)
    (chain : stock.chains sizeClass = block :: rest) :
    (Heap.allocateBytes bytes).outcome heap =
      (.ok (some (block + BlockHeader.bytes)), heap.handedOut sizeClass block bytes) := by
  have bound : BlockHeader.largestBlock < UInt64.size := by decide
  have filled : ¬ heap.freeLists[sizeClass] = 0 := by
    have linked := holds.linked sizeClass
    rw [chain] at linked
    exact fun empty => linked.2.1 (linked.1.symm.trans empty)
  simp only [Heap.allocateBytes]
  rw [if_neg (by omega), if_neg (by omega), Step.outcome_bind_ok (Step.outcome_get heap)]
  simp only [chosen]
  rw [if_neg filled, Step.outcome_bind_ok (Step.outcome_pure true heap), if_pos rfl]
  exact holds.outcome_serve chain bytes

theorem outcome_allocateBytes_unlisted (holds : heap.Holds stock) {bytes : Nat}
    {sizeClass : SizeClass} (small : bytes + BlockHeader.bytes ≤ BlockHeader.largestBlock)
    (chosen : SizeClass.holding (bytes + BlockHeader.bytes) = sizeClass)
    (unlisted : stock.chains sizeClass = []) :
    (Heap.allocateBytes bytes).outcome heap =
      match heap.pages.findFree heap.memory 1 with
      | none => (.ok none, heap)
      | some index => (.ok (some (heap.pages.address index + BlockHeader.bytes)),
          ((heap.granted index 1).pushAll sizeClass
            (sizeClass.pageBlocks (heap.pages.address index))).handedOut sizeClass
              (heap.pages.address index) bytes) := by
  have bound : BlockHeader.largestBlock < UInt64.size := by decide
  have empty : heap.freeLists[sizeClass] = 0 := by
    have linked := holds.linked sizeClass
    rw [unlisted] at linked
    exact linked
  simp only [Heap.allocateBytes]
  rw [if_neg (by omega), if_neg (by omega), Step.outcome_bind_ok (Step.outcome_get heap)]
  simp only [chosen]
  rw [if_pos empty]
  have refill := outcome_refill sizeClass heap
  cases found : heap.pages.findFree heap.memory 1 with
  | none =>
      rw [found] at refill
      rw [Step.outcome_bind_ok refill, if_neg Bool.false_ne_true, Step.outcome_pure]
  | some index =>
      rw [found] at refill
      rw [Step.outcome_bind_ok refill, if_pos rfl]
      obtain ⟨rest, blocks⟩ := pageBlocks_eq_cons sizeClass (heap.pages.address index)
      have front : (stock.restocked sizeClass (heap.pages.address index)).chains sizeClass =
          heap.pages.address index :: (rest ++ stock.chains sizeClass) := by
        rw [Stock.restocked, Stock.withChain_chains, if_pos rfl, blocks, List.cons_append]
      exact (holds.refilled (PagePool.findFree_vacant found Nat.one_pos)).outcome_serve front bytes

/-- What a request for bytes comes to: it is refused without a change, gets pages of its own, or
gets the first block of the free list that serves it, for which a page may have been carved up. -/
theorem allocateBytes_cases (holds : heap.Holds stock) (bytes : Nat) :
    (Heap.allocateBytes bytes).outcome heap = (.ok none, heap) ∨
    (BlockHeader.largestBlock < bytes + BlockHeader.bytes ∧
      bytes + BlockHeader.bytes < UInt64.size ∧
      ∃ index, heap.pages.Vacant heap.memory index (Page.spanning (bytes + BlockHeader.bytes)) ∧
        (Heap.allocateBytes bytes).outcome heap =
          (.ok (some (heap.pages.address index + BlockHeader.bytes)),
            heap.largeGranted index bytes)) ∨
    (bytes + BlockHeader.bytes ≤ BlockHeader.largestBlock ∧
      ∃ sizeClass ready next block rest,
        SizeClass.holding (bytes + BlockHeader.bytes) = sizeClass ∧
        heap.Stocked stock sizeClass ready next ∧ next.chains sizeClass = block :: rest ∧
        (Heap.allocateBytes bytes).outcome heap =
          (.ok (some (block + BlockHeader.bytes)), ready.handedOut sizeClass block bytes)) := by
  rcases Nat.lt_or_ge BlockHeader.largestBlock (bytes + BlockHeader.bytes) with large | small
  · simp only [Heap.allocateBytes]
    by_cases wide : UInt64.size ≤ bytes + BlockHeader.bytes
    · left
      rw [if_pos wide, Step.outcome_pure]
    · rw [if_neg wide, if_pos large]
      simp only [Step.outcome_bind]
      rcases allocatePages_cases (Page.spanning (bytes + BlockHeader.bytes)) heap with
        refused | ⟨index, vacant, granted⟩
      · left
        simp only [refused, Step.outcome_pure]
      · right
        left
        refine ⟨large, by omega, index, vacant, ?_⟩
        simp only [granted, Step.outcome_map, outcome_enliven]
        rfl
  · obtain ⟨sizeClass, chosen⟩ : ∃ sizeClass,
      SizeClass.holding (bytes + BlockHeader.bytes) = sizeClass := ⟨_, rfl⟩
    cases chain : stock.chains sizeClass with
    | nil =>
        rw [holds.outcome_allocateBytes_unlisted small chosen chain]
        cases found : heap.pages.findFree heap.memory 1 with
        | none => exact Or.inl rfl
        | some index =>
            obtain ⟨rest, blocks⟩ := pageBlocks_eq_cons sizeClass (heap.pages.address index)
            refine Or.inr (Or.inr ⟨small, sizeClass, _, _, heap.pages.address index, rest, chosen,
              .carved index (PagePool.findFree_vacant found Nat.one_pos), ?_, rfl⟩)
            rw [Stock.restocked, Stock.withChain_chains, if_pos rfl, blocks, chain,
              List.append_nil]
    | cons block rest =>
        rw [holds.outcome_allocateBytes_listed small chosen chain]
        exact Or.inr (Or.inr ⟨small, sizeClass, heap, stock, block, rest, chosen, .already, chain,
          rfl⟩)

theorem allocateBytes (holds : heap.Holds stock) (bytes : Nat) :
    Supplies (Heap.allocateBytes bytes) heap stock fun address => .pool address bytes := by
  rcases holds.allocateBytes_cases bytes with refused | ⟨large, bound, index, vacant, granted⟩ |
    ⟨small, sizeClass, ready, next, block, rest, chosen, stocked, chain, served⟩
  · exact Or.inl refused
  · exact Or.inr ⟨_, _, _, granted, (holds.granted vacant).as_large rfl large bound, rfl⟩
  · refine Or.inr ⟨_, _, _, served, (stocked.holds holds).handedOut chain small chosen, ?_⟩
    show Buffer.pool (block + BlockHeader.bytes) bytes :: next.live = _
    rw [stocked.live]

theorem outcome_freeBytes (holds : heap.Holds stock) {address bytes : Nat}
    (member : .pool address bytes ∈ stock.live) :
    (Heap.freeBytes address).outcome heap =
      if BlockHeader.largestBlock < bytes + BlockHeader.bytes then
        (freePages (Buffer.blockOf address)
          (Page.spanning (bytes + BlockHeader.bytes))).outcome (heap.blotted address bytes)
      else (.ok (), heap.push (SizeClass.holding (bytes + BlockHeader.bytes))
        (Buffer.blockOf address)) := by
  obtain ⟨room, limit, header⟩ := holds.headers address bytes member
  have block : address - BlockHeader.bytes = Buffer.blockOf address := rfl
  have inside : ¬ (address < BlockHeader.bytes ∨ Buffer.blockOf address < heap.pages.first ∨
      heap.pages.stop < Buffer.blockOf address + BlockHeader.bytes) := by
    have within := (holds.header_within_extent member).trans (holds.extent_within member).1
    simp only [Span.Within, PagePool.span] at within
    omega
  simp only [Heap.freeBytes, Step.outcome_bind, Step.outcome_get, block, if_neg inside, header,
    bne_self_eq_false, Bool.false_eq_true, if_false]
  by_cases large : BlockHeader.largestBlock < bytes + BlockHeader.bytes
  · rw [if_pos (show Buffer.mark bytes = _ from if_pos large), if_pos large]
    rfl
  · obtain ⟨sizeClass, chosen⟩ : ∃ sizeClass,
      SizeClass.holding (bytes + BlockHeader.bytes) = sizeClass := ⟨_, rfl⟩
    obtain ⟨_, mark, _, _⟩ := Buffer.small_as_block (by omega) chosen address
    have other : sizeClass.val ≠ BlockHeader.largeClass :=
      Nat.ne_of_lt (Nat.lt_trans sizeClass.isLt (by decide))
    simp only [mark, if_neg other, dif_pos sizeClass.isLt, if_neg large, chosen]
    rfl

theorem blotted (holds : heap.Holds stock) {address bytes : Nat} {rest : List Buffer}
    (first : stock.live = .pool address bytes :: rest)
    (large : BlockHeader.largestBlock < bytes + BlockHeader.bytes) :
    (heap.blotted address bytes).Holds (stock.withLive
      (.pages (Buffer.blockOf address) (Page.spanning (bytes + BlockHeader.bytes)) :: rest)) := by
  have whole := Page.le_spanning (bytes + BlockHeader.bytes)
  exact (holds.as_pages first large).headed ⟨0, Buffer.mark bytes, bytes⟩
    List.mem_cons_self (by omega)

theorem freeBytes (holds : heap.Holds stock) {address bytes : Nat} {rest : List Buffer}
    (first : stock.live = .pool address bytes :: rest) :
    ∃ later next, (Heap.freeBytes address).outcome heap = (.ok (), later) ∧
      later.Holds next ∧ next.live = rest := by
  rw [holds.outcome_freeBytes (first ▸ List.mem_cons_self)]
  by_cases large : BlockHeader.largestBlock < bytes + BlockHeader.bytes
  · obtain ⟨later, freed, kept, _⟩ := (holds.blotted first large).released rfl
    rw [if_pos large]
    exact ⟨later, _, freed, kept, rfl⟩
  · rw [if_neg large]
    exact ⟨_, _, rfl, holds.takenBack first (by omega) rfl, rfl⟩

end Holds

end Heap

end PartitionBoot
