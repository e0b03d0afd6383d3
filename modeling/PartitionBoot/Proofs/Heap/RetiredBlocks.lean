import PartitionBoot.Proofs.Heap.StockRun

/-!
Buffers are freed once. What a client holds can be given back at any time. A pointer that was given
back stays retired until its block is handed out again, and as long as it is, a second free of it
stops and changes nothing.
-/

namespace PartitionBoot

theorem Buffer.block_covered {buffer : Buffer} {sizeClass : SizeClass} {block : Nat}
    (small : buffer.block? sizeClass = some block) : buffer.extent.Covers block := by
  have bounds := sizeClass.blockSize_bounds
  rw [Buffer.extent_small small]
  simp only [Span.Covers, SizeClass.span]
  omega

namespace Stock

variable {stock next : Stock} {buffer : Buffer} {sizeClass : SizeClass} {block : Nat}

theorem Issues.mem_chain (issues : stock.Issues buffer next)
    (elsewhere : ¬ buffer.extent.Covers block) (listed : block ∈ stock.chains sizeClass) :
    block ∈ next.chains sizeClass := by
  cases issues with
  | whole _ => exact listed
  | @listed other first rest mine chain =>
      rw [withLive, withChain_chains]
      by_cases same : sizeClass = other
      · subst other
        rw [if_pos rfl]
        rw [chain] at listed
        rcases List.mem_cons.mp listed with rfl | behind
        · exact absurd (Buffer.block_covered mine) elsewhere
        · exact behind
      · rw [if_neg same]
        exact listed
  | @carved other page rest mine unlisted blocks =>
      rw [withLive, withChain_chains]
      by_cases same : sizeClass = other
      · subst other
        rw [unlisted] at listed
        cases listed
      · rw [if_neg same, restocked, withChain_chains, if_neg same]
        exact listed

theorem Returns.mem_chain (returns : stock.Returns buffer next)
    (listed : block ∈ stock.chains sizeClass) : block ∈ next.chains sizeClass := by
  cases returns with
  | whole _ _ => exact listed
  | @listed other first rest mine _ =>
      rw [withLive, withChain_chains]
      by_cases same : sizeClass = other
      · subst other
        rw [if_pos rfl]
        exact List.mem_cons_of_mem _ listed
      · rw [if_neg same]
        exact listed

end Stock

namespace Heap

variable {heap later : Heap} {stock next : Stock} {buffer : Buffer} {pointer block : Nat}
  {given : Option Buffer} {taken : Option Nat}

theorem Quiet.header_kept {grants : List Grant} (quiet : later.Quiet heap grants)
    (holds : heap.Holds stock) (places : heap.pages.Places ⟨block, 1⟩)
    (apart : ∀ grant ∈ grants, grant.Apart ⟨block, 1⟩) :
    later.memory.readHeader block = heap.memory.readHeader block ∧
      later.pages.Places ⟨block, 1⟩ := by
  have header : Span.Within ⟨block, block + BlockHeader.bytes⟩ (Grant.span ⟨block, 1⟩) :=
    ⟨Nat.le_refl _, Nat.add_le_add_left (show 16 ≤ Page.bytes 1 by decide) block⟩
  have clear : heap.pages.bitmaps.Apart (Grant.span ⟨block, 1⟩) :=
    holds.bitmaps_apart places.within
  refine ⟨Memory.readHeader_congr ?_, ?_⟩
  · refine quiet.kept ⟨block, block + BlockHeader.bytes⟩ (clear.mono_right header) ?_
    intro grant member
    have away : grant.span.Apart (Grant.span ⟨block, 1⟩) := apart grant member
    exact away.mono_right header
  · rw [quiet.ground]
    exact places

theorem Holds.apart_page (holds : heap.Holds stock) {grant : Grant} (member : grant ∈ stock.grants)
    (places : heap.pages.Places ⟨block, 1⟩) (elsewhere : ¬ grant.Covers block) :
    grant.Apart ⟨block, 1⟩ := by
  obtain ⟨page, place, _, _⟩ := places
  change block = _ at place
  subst block
  obtain ⟨index, base, _, _⟩ := holds.records.placed grant member
  obtain ⟨first, count⟩ := grant
  change first = _ at base
  subst first
  rw [PagePool.covers_address] at elsewhere
  rw [PagePool.apart_address]
  omega

theorem HandsOut.apart_page (handsOut : heap.HandsOut stock buffer later next)
    (places : heap.pages.Places ⟨block, 1⟩)
    (apart : ∀ grant ∈ stock.grants, grant.Apart ⟨block, 1⟩)
    (elsewhere : ¬ buffer.extent.Covers block) :
    ∀ grant ∈ next.grants, grant.Apart ⟨block, 1⟩ := by
  have here : later.pages.Places ⟨block, 1⟩ := by
    rw [handsOut.quiet.ground]
    exact places
  intro grant member
  rcases handsOut.issues.mem_grants member with old | whole | ⟨sizeClass, small, single⟩
  · exact apart grant old
  · refine handsOut.holds.apart_page member here fun covers => elsewhere ?_
    rw [Buffer.extent_whole whole]
    exact covers
  · -- The page that was carved up would be the vacant one, and its first block the buffer.
    refine handsOut.holds.apart_page member here fun covers => elsewhere ?_
    obtain ⟨page, place, _, _⟩ := here
    obtain ⟨index, base, _, _⟩ := handsOut.holds.records.placed grant member
    obtain ⟨first, count⟩ := grant
    change count = 1 at single
    change first = _ at base
    change block = _ at place
    subst single base
    rw [place, PagePool.covers_address] at covers
    have same : index = page := by omega
    rw [place, ← same]
    exact Buffer.block_covered small

/-- A pointer stays retired as long as its block stays on its list, or no grant comes to lie over
its page. -/
theorem Retired.kept {grants : List Grant} (retired : heap.Retired stock pointer)
    (holds : heap.Holds stock) (quiet : later.Quiet heap grants) (fewer : next.grants ⊆ grants)
    (chains : ∀ sizeClass, Buffer.blockOf pointer ∈ stock.chains sizeClass →
      Buffer.blockOf pointer ∈ next.chains sizeClass)
    (clear : heap.pages.Places ⟨Buffer.blockOf pointer, 1⟩ →
      (∀ grant ∈ stock.grants, grant.Apart ⟨Buffer.blockOf pointer, 1⟩) →
      ∀ grant ∈ grants, grant.Apart ⟨Buffer.blockOf pointer, 1⟩) :
    later.Retired next pointer := by
  refine ⟨retired.room, ?_⟩
  rcases retired.block with ⟨sizeClass, listed⟩ | ⟨blotted, places, apart⟩
  · exact Or.inl ⟨sizeClass, chains sizeClass listed⟩
  · obtain ⟨header, placed⟩ := quiet.header_kept holds places (clear places apart)
    refine Or.inr ⟨?_, placed, fun grant member => clear places apart grant (fewer member)⟩
    rw [header]
    exact blotted

theorem HandsOut.retired (handsOut : heap.HandsOut stock buffer later next)
    (holds : heap.Holds stock) (retired : heap.Retired stock pointer)
    (elsewhere : ¬ buffer.extent.Covers (Buffer.blockOf pointer)) :
    later.Retired next pointer :=
  retired.kept holds handsOut.quiet (List.Subset.refl _)
    (fun _ listed => handsOut.issues.mem_chain elsewhere listed)
    fun places apart => handsOut.apart_page places apart elsewhere

theorem TakesBack.still_retired (takesBack : heap.TakesBack stock buffer later next)
    (holds : heap.Holds stock) (retired : heap.Retired stock pointer) :
    later.Retired next pointer :=
  retired.kept holds takesBack.quiet takesBack.returns.grants_subset
    (fun _ listed => takesBack.returns.mem_chain listed) fun _ apart => apart

theorem Turns.still_retired (turns : heap.Turns stock given taken later next)
    (holds : heap.Holds stock) (retired : heap.Retired stock pointer)
    (elsewhere : ∀ buffer, given = some buffer →
      ¬ buffer.extent.Covers (Buffer.blockOf pointer)) :
    later.Retired next pointer := by
  cases turns with
  | kept _ quiet =>
      exact retired.kept holds quiet (List.Subset.refl _) (fun _ listed => listed)
        fun _ apart => apart
  | handedOut handsOut => exact handsOut.retired holds retired (elsewhere _ rfl)
  | takenBack takesBack => exact takesBack.still_retired holds retired
  | moved handsOut takesBack =>
      exact takesBack.still_retired handsOut.holds
        (handsOut.retired holds retired (elsewhere _ rfl))

theorem Turns.retires (turns : heap.Turns stock given taken later next)
    (back : taken = some pointer) : later.Retired next pointer := by
  cases turns with
  | kept _ _ => cases back
  | handedOut _ => cases back
  | takenBack takesBack => exact takesBack.retired pointer back
  | moved _ takesBack => exact takesBack.retired pointer back

theorem Holds.outcome_freeBytes_retired (holds : heap.Holds stock)
    (retired : heap.Retired stock pointer) :
    ∃ signature,
      (Heap.freeBytes pointer).outcome heap = (.error (.notLive pointer signature), heap) := by
  obtain ⟨room, block⟩ := retired
  have place : pointer - BlockHeader.bytes = Buffer.blockOf pointer := rfl
  have facts : Span.Within ⟨Buffer.blockOf pointer, Buffer.blockOf pointer + BlockHeader.bytes⟩
        heap.pages.span ∧
      (heap.memory.readHeader (Buffer.blockOf pointer)).signature ≠ BlockHeader.live := by
    rcases block with ⟨sizeClass, listed⟩ | ⟨blotted, places, _⟩
    · refine ⟨?_, ?_⟩
      · exact (header_within_block _ _).trans (holds.block_within (holds.chain_block listed)).1
      · rw [(holds.linked sizeClass).header listed]
        show BlockHeader.free ≠ BlockHeader.live
        decide
    · refine ⟨?_, ?_⟩
      · refine Span.Within.trans ?_ places.within.1
        exact ⟨Nat.le_refl _, Nat.add_le_add_left (show 16 ≤ Page.bytes 1 by decide) _⟩
      · rw [blotted]
        decide
  obtain ⟨within, dead⟩ := facts
  have inside : ¬ (pointer < BlockHeader.bytes ∨ Buffer.blockOf pointer < heap.pages.first ∨
      heap.pages.stop < Buffer.blockOf pointer + BlockHeader.bytes) := by
    simp only [Span.Within, PagePool.span] at within
    omega
  refine ⟨(heap.memory.readHeader (Buffer.blockOf pointer)).signature, ?_⟩
  simp only [Heap.freeBytes, Step.outcome_bind, Step.outcome_get, place, if_neg inside,
    if_pos (bne_iff_ne.mpr dead), Step.outcome_fail]

end Heap

variable {region : AddressRange} {memory : Memory} {past : ServiceHistory} {heap : Heap}
  {stock : Stock}

theorem StockRun.retired {recent earlier : ServiceHistory} {call : ServiceCall}
    {result : Except HeapFault (Option Nat)} {pointer : Nat}
    (run : StockRun region memory (recent ++ (call, result) :: earlier) heap stock)
    (back : call.takenBack? result = some pointer)
    (elsewhere : ∀ buffer ∈ recent.issued,
      ¬ buffer.extent.Covers (Buffer.blockOf pointer)) :
    heap.Retired stock pointer := by
  generalize whole : recent ++ (call, result) :: earlier = past at run
  induction recent generalizing past heap stock with
  | nil =>
      subst whole
      cases run with
      | call _ moves => exact moves.turns.retires back
  | cons entry rest ih =>
      subst whole
      cases run with
      | @call _ before stock call result _ _ run moves =>
          have before := ih (fun buffer member =>
            elsewhere buffer (List.mem_append_right _ member)) _ rfl run
          refine moves.turns.still_retired run.holds before ?_
          intro buffer given
          refine elsewhere buffer (List.mem_append_left _ ?_)
          rw [given]
          exact List.mem_cons_self

/-- Buffers are freed once. Live pages and live buffers can be given back and moved at any time, and
no call ever finds a free list corrupted. A pool pointer that was given back, and over whose block
no buffer was handed out since, is refused when it is freed again. -/
theorem live_buffers_freed_once (run : ServiceRun region memory past heap) :
    (∀ base count, .pages base count ∈ past.live →
      ∃ later, (MemoryServices.freePages base count).outcome heap = (.ok (), later)) ∧
    (∀ pointer bytes, .pool pointer bytes ∈ past.live →
      (∃ later, (MemoryServices.freePool pointer).outcome heap = (.ok (), later)) ∧
      ∀ category oldSize newSize, oldSize ≤ bytes → ∃ answer later,
        (MemoryServices.reallocatePool category oldSize newSize (some pointer)).outcome heap =
          (.ok answer, later)) ∧
    (∀ call : ServiceCall, call.Permitted past.live → ∀ block,
      (call.step.outcome heap).1 ≠ .error (.corruptFreeList block)) ∧
    ∀ (recent earlier : ServiceHistory) call result pointer,
      past = recent ++ (call, result) :: earlier → call.takenBack? result = some pointer →
      (∀ buffer ∈ recent.issued, ¬ buffer.extent.Covers (pointer - BlockHeader.bytes)) →
      ∃ signature, (MemoryServices.freePool pointer).outcome heap =
        (.error (.notLive pointer signature), heap) := by
  obtain ⟨stock, stocked⟩ := run.stockRun
  have holds := stocked.holds
  rw [← stocked.live]
  refine ⟨?_, ?_, ?_, ?_⟩
  · intro base count member
    obtain ⟨later, freed, _⟩ := (holds.perm (List.perm_cons_erase member)).released rfl
    exact ⟨later, freed⟩
  · intro pointer bytes member
    refine ⟨?_, ?_⟩
    · obtain ⟨later, _, freed, _⟩ :=
        (holds.perm (ServiceCall.perm_dropPool_of_holds holds member)).freeBytes rfl
      exact ⟨later, freed⟩
    · intro category oldSize newSize small
      obtain ⟨answer, later, _, moved, _⟩ :=
        ServiceCall.moves_reallocate holds category member small
      exact ⟨answer, later, moved⟩
  · intro call permitted block corrupt
    obtain ⟨result, later, next, done, moves⟩ := ServiceCall.moves holds permitted
    rw [done] at corrupt
    cases moves.faults _ corrupt
  · rintro recent earlier call result pointer rfl back elsewhere
    exact holds.outcome_freeBytes_retired (stocked.retired back elsewhere)

/-- A small and a large buffer, freed with a page grant between the two frees. -/
theorem second_frees_refused :
    let past : ServiceHistory := [
      (.freePool 0x16010, .ok none),
      (.allocatePages .runtime 1, .ok (some 0x15000)),
      (.freePool 0x17010, .ok none),
      (.allocatePool .runtime 3000, .ok (some 0x16010)),
      (.allocatePool .runtime 1500, .ok (some 0x17010))]
    ∃ heap, ServiceRun ⟨0x10000, 0x8000⟩ Memory.zeroed past heap ∧
      (∃ later, (MemoryServices.freePages 0x15000 1).outcome heap = (.ok (), later)) ∧
      (∃ signature, (MemoryServices.freePool 0x17010).outcome heap =
        (.error (.notLive 0x17010 signature), heap)) ∧
      ∃ signature, (MemoryServices.freePool 0x16010).outcome heap =
        (.error (.notLive 0x16010 signature), heap) := by
  intro past
  have run : ServiceRun ⟨0x10000, 0x8000⟩ Memory.zeroed past _ :=
    .call (.call (.call (.call (.call .start trivial (by decide +kernel)) trivial
      (by decide +kernel)) ⟨1500, by decide⟩ (by decide +kernel)) trivial (by decide +kernel))
      ⟨3000, by decide⟩ (by decide +kernel)
  obtain ⟨pages, _, _, again⟩ := live_buffers_freed_once run
  refine ⟨_, run, pages 0x15000 1 (by decide), ?_, ?_⟩
  · exact again [(.freePool 0x16010, .ok none), (.allocatePages .runtime 1, .ok (some 0x15000))]
      _ (.freePool 0x17010) (.ok none) 0x17010 rfl rfl (by decide)
  · exact again [] _ (.freePool 0x16010) (.ok none) 0x16010 rfl rfl (by decide)

end PartitionBoot
