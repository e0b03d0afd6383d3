import PartitionBoot.Proofs.Heap.ServiceSteps

/-!
How the stock of a heap turns over. A buffer that is handed out gets pages of its own, the first
free block of its class or, where there is none, the first block of a page that is carved up for
it; a buffer that is taken back leaves a retired block. Memory on which no grant lies is left alone.
-/

namespace PartitionBoot

namespace Stock

inductive Issues (stock : Stock) (buffer : Buffer) : Stock → Prop
  | whole {grant : Grant} : buffer.grant? = some grant →
      Issues stock buffer (stock.withLive (buffer :: stock.live))
  | listed {sizeClass : SizeClass} {block : Nat} {rest : List Nat} :
      buffer.block? sizeClass = some block → stock.chains sizeClass = block :: rest →
      Issues stock buffer ((stock.withChain sizeClass rest).withLive (buffer :: stock.live))
  | carved {sizeClass : SizeClass} {page : Nat} {rest : List Nat} :
      buffer.block? sizeClass = some page → stock.chains sizeClass = [] →
      sizeClass.pageBlocks page = page :: rest →
      Issues stock buffer (((stock.restocked sizeClass page).withChain sizeClass rest).withLive
        (buffer :: stock.live))

inductive Returns (stock : Stock) (buffer : Buffer) : Stock → Prop
  | whole {grant : Grant} {rest : List Buffer} : buffer.grant? = some grant →
      stock.live.Perm (buffer :: rest) → Returns stock buffer (stock.withLive rest)
  | listed {sizeClass : SizeClass} {block : Nat} {rest : List Buffer} :
      buffer.block? sizeClass = some block → stock.live.Perm (buffer :: rest) →
      Returns stock buffer
        ((stock.withChain sizeClass (block :: stock.chains sizeClass)).withLive rest)

theorem Issues.live {stock next : Stock} {buffer : Buffer} (issues : stock.Issues buffer next) :
    next.live = buffer :: stock.live := by
  cases issues <;> rfl

theorem Returns.live {stock next : Stock} {buffer : Buffer} (returns : stock.Returns buffer next) :
    stock.live.Perm (buffer :: next.live) := by
  cases returns with
  | whole _ permuted => exact permuted
  | listed _ permuted => exact permuted

theorem Issues.carved_cases {stock next : Stock} {buffer : Buffer}
    (issues : stock.Issues buffer next) :
    next.carved = stock.carved ∨ ∃ page sizeClass, buffer.block? sizeClass = some page ∧
      next.carved = (page, sizeClass) :: stock.carved := by
  cases issues with
  | whole _ => exact Or.inl rfl
  | listed _ _ => exact Or.inl rfl
  | carved small _ _ => exact Or.inr ⟨_, _, small, rfl⟩

theorem Returns.carved_eq {stock next : Stock} {buffer : Buffer}
    (returns : stock.Returns buffer next) : next.carved = stock.carved := by
  cases returns <;> rfl

theorem Issues.mem_grants {stock next : Stock} {buffer : Buffer} (issues : stock.Issues buffer next)
    {grant : Grant} (member : grant ∈ next.grants) :
    grant ∈ stock.grants ∨ buffer.grant? = some grant ∨
      ∃ sizeClass, buffer.block? sizeClass = some grant.base ∧ grant.count = 1 := by
  have others : grant ∈ (buffer :: stock.live).filterMap Buffer.grant? →
      grant ∈ stock.grants ∨ buffer.grant? = some grant := by
    intro mine
    obtain ⟨holder, live, whole⟩ := List.mem_filterMap.mp mine
    rcases List.mem_cons.mp live with rfl | old
    · exact Or.inr whole
    · exact Or.inl (Heap.Holds.live_grant stock old whole)
  rcases List.mem_append.mp member with mine | page
  · rw [issues.live] at mine
    rcases others mine with old | new
    · exact Or.inl old
    · exact Or.inr (Or.inl new)
  · rcases issues.carved_cases with same | ⟨first, sizeClass, small, more⟩
    · rw [same] at page
      exact Or.inl (List.mem_append_right _ page)
    · rw [more] at page
      rcases List.mem_cons.mp page with rfl | old
      · exact Or.inr (Or.inr ⟨sizeClass, small, rfl⟩)
      · exact Or.inl (List.mem_append_right _ old)

theorem Returns.grants_subset {stock next : Stock} {buffer : Buffer}
    (returns : stock.Returns buffer next) : next.grants ⊆ stock.grants := by
  have fewer : next.live.filterMap Buffer.grant? ⊆ stock.live.filterMap Buffer.grant? := by
    intro grant member
    obtain ⟨holder, live, whole⟩ := List.mem_filterMap.mp member
    exact List.mem_filterMap.mpr
      ⟨holder, returns.live.mem_iff.mpr (List.mem_cons_of_mem _ live), whole⟩
  intro grant member
  rw [Stock.grants, returns.carved_eq] at member
  rcases List.mem_append.mp member with mine | page
  · exact List.mem_append_left _ (fewer mine)
  · exact List.mem_append_right _ page

end Stock

namespace Heap

/-- A later state of a heap that lies on the same ground and holds the same bytes outside of the
bitmaps and of some grants. -/
structure Quiet (later earlier : Heap) (grants : List Grant) : Prop where
  ground : later.pages = { earlier.pages with free := later.pages.free }
  kept : ∀ span : Span, earlier.pages.bitmaps.Apart span →
    (∀ grant ∈ grants, grant.span.Apart span) →
    later.memory.Agrees earlier.memory span.start span.stop

namespace Quiet

variable {last middle first : Heap} {grants others : List Grant}

theorem refl (heap : Heap) (grants : List Grant) : heap.Quiet heap grants :=
  ⟨rfl, fun _ _ _ => Memory.Agrees.refl _ _ _⟩

theorem bitmaps (quiet : last.Quiet first grants) : last.pages.bitmaps = first.pages.bitmaps :=
  (congrArg PagePool.bitmaps quiet.ground).trans rfl

theorem trans (after : last.Quiet middle grants) (before : middle.Quiet first grants) :
    last.Quiet first grants where
  ground := after.ground.trans (congrArg (fun pool : PagePool =>
    { pool with free := last.pages.free }) before.ground)
  kept span clear apart := by
    have still : middle.pages.bitmaps.Apart span := before.bitmaps ▸ clear
    exact (after.kept span still apart).trans (before.kept span clear apart)

theorem mono (quiet : last.Quiet first grants) (more : grants ⊆ others) :
    last.Quiet first others :=
  ⟨quiet.ground, fun span clear apart =>
    quiet.kept span clear fun grant member => apart grant (more member)⟩

end Quiet

theorem quiet_within {later earlier : Heap} {grants : List Grant} {footprint : Span}
    (ground : later.pages = { earlier.pages with free := later.pages.free })
    (writes : ∀ span : Span, footprint.Apart span →
      later.memory.Agrees earlier.memory span.start span.stop)
    (granted : ∃ grant ∈ grants, footprint.Within grant.span) : later.Quiet earlier grants := by
  refine ⟨ground, ?_⟩
  intro span _ apart
  obtain ⟨grant, member, within⟩ := granted
  exact writes span ((apart grant member).mono_left within)

/-- What a pointer leaves behind that was given back: a block on a free list, or a page without a
grant whose header is blotted out. -/
structure Retired (heap : Heap) (stock : Stock) (pointer : Nat) : Prop where
  room : BlockHeader.bytes ≤ pointer
  block : (∃ sizeClass, Buffer.blockOf pointer ∈ stock.chains sizeClass) ∨
    (heap.memory.readHeader (Buffer.blockOf pointer)).signature = 0 ∧
      heap.pages.Places ⟨Buffer.blockOf pointer, 1⟩ ∧
      ∀ grant ∈ stock.grants, grant.Apart ⟨Buffer.blockOf pointer, 1⟩

structure HandsOut (heap : Heap) (stock : Stock) (buffer : Buffer) (later : Heap) (next : Stock) :
    Prop where
  issues : stock.Issues buffer next
  holds : later.Holds next
  quiet : later.Quiet heap next.grants

structure TakesBack (heap : Heap) (stock : Stock) (buffer : Buffer) (later : Heap) (next : Stock) :
    Prop where
  returns : stock.Returns buffer next
  holds : later.Holds next
  quiet : later.Quiet heap stock.grants
  retired : ∀ pointer, buffer.pointer? = some pointer → later.Retired next pointer

theorem blotted_pages (heap : Heap) (address bytes : Nat) :
    (heap.blotted address bytes).pages = heap.pages := by
  rw [blotted, withMemory]

theorem blotted_memory (heap : Heap) (address bytes : Nat) :
    (heap.blotted address bytes).memory =
      heap.memory.writeHeader (Buffer.blockOf address) ⟨0, Buffer.mark bytes, bytes⟩ := by
  rw [blotted, withMemory_memory]

variable {heap later : Heap} {stock next : Stock} {buffer : Buffer}

namespace Holds

theorem extent_granted (holds : heap.Holds stock) (member : buffer ∈ stock.live) :
    ∃ grant ∈ stock.grants, buffer.extent.Within grant.span := by
  rcases buffer.extent_cases with ⟨grant, whole, extent, _⟩ | ⟨sizeClass, block, _, small, extent⟩
  · rw [extent]
    exact ⟨grant, live_grant stock member whole, Nat.le_refl _, Nat.le_refl _⟩
  · obtain ⟨page, carved, inPage⟩ := Stock.mem_blocks.mp (holds.live_block member small)
    rw [extent]
    exact ⟨⟨page, 1⟩, carved_grant stock carved, SizeClass.span_within_page inPage⟩

theorem header_granted (holds : heap.Holds stock) {address bytes : Nat}
    (member : .pool address bytes ∈ stock.live) :
    ∃ grant ∈ stock.grants, Span.Within ⟨Buffer.blockOf address,
      Buffer.blockOf address + BlockHeader.bytes⟩ grant.span := by
  obtain ⟨grant, granted, within⟩ := holds.extent_granted member
  exact ⟨grant, granted, (holds.header_within_extent member).trans within⟩

/-! What leaves memory alone. -/

theorem quiet_granted (holds : heap.Holds stock) {index count : Nat}
    (vacant : heap.pages.Vacant heap.memory index count) (grants : List Grant) :
    (heap.granted index count).Quiet heap grants :=
  ⟨rfl, fun span clear _ => holds.agrees_granted vacant span clear⟩

theorem quiet_headed (holds : heap.Holds stock) {address bytes : Nat}
    (member : .pool address bytes ∈ stock.live) {earlier : Heap} (header : BlockHeader)
    (ground : later.pages = { earlier.pages with free := later.pages.free })
    (headed : later.memory = earlier.memory.writeHeader (Buffer.blockOf address) header) :
    later.Quiet earlier stock.grants := by
  refine quiet_within ground ?_ (holds.header_granted member)
  intro span apart
  rw [headed]
  exact Memory.agrees_writeHeader apart.symm

theorem quiet_pushed (heap : Heap) {sizeClass : SizeClass} {page : Nat} {grants : List Grant}
    (granted : ⟨page, 1⟩ ∈ grants) :
    (heap.pushAll sizeClass (sizeClass.pageBlocks page)).Quiet heap grants := by
  have ground := pushAll_pages heap sizeClass (sizeClass.pageBlocks page)
  have writes : ∀ span : Span, (Grant.span ⟨page, 1⟩).Apart span →
      (heap.pushAll sizeClass (sizeClass.pageBlocks page)).memory.Agrees heap.memory
        span.start span.stop := by
    intro span apart
    refine pushAll_agrees fun block inPage => ?_
    exact ((apart.mono_left (SizeClass.span_within_page inPage)).mono_left
      (freeBytes_within sizeClass block)).symm
  refine quiet_within ?_ writes ⟨_, granted, Nat.le_refl _, Nat.le_refl _⟩
  rw [ground]

theorem quiet_stored (holds : heap.Holds stock) (member : buffer ∈ stock.live) {memory : Memory}
    (agrees : ∀ span : Span, buffer.span.Apart span →
      memory.Agrees heap.memory span.start span.stop) :
    (heap.withMemory memory).Quiet heap stock.grants := by
  obtain ⟨grant, granted, within⟩ := holds.extent_granted member
  exact quiet_within rfl agrees
    ⟨grant, granted, (holds.span_within_extent member).trans within⟩

/-! Handing out. -/

theorem handsOut_pages (holds : heap.Holds stock) {index count : Nat}
    (vacant : heap.pages.Vacant heap.memory index count) :
    heap.HandsOut stock (.pages (heap.pages.address index) count) (heap.granted index count)
      (stock.withLive (.pages (heap.pages.address index) count :: stock.live)) where
  issues := .whole rfl
  holds := holds.granted vacant
  quiet := holds.quiet_granted vacant _

theorem handsOut_large (holds : heap.Holds stock) {index bytes : Nat}
    (large : BlockHeader.largestBlock < bytes + BlockHeader.bytes)
    (bound : bytes + BlockHeader.bytes < UInt64.size)
    (vacant : heap.pages.Vacant heap.memory index (Page.spanning (bytes + BlockHeader.bytes))) :
    heap.HandsOut stock (.pool (heap.pages.address index + BlockHeader.bytes) bytes)
      (heap.largeGranted index bytes)
      (stock.withLive (.pool (heap.pages.address index + BlockHeader.bytes) bytes ::
        stock.live)) := by
  have kept := (holds.granted vacant).as_large rfl large bound
  refine ⟨.whole (if_pos large), kept, ?_⟩
  refine Quiet.trans ?_ (holds.quiet_granted vacant _)
  refine kept.quiet_headed List.mem_cons_self
    ⟨BlockHeader.live, BlockHeader.largeClass, bytes⟩ ?_ ?_
  · simp only [largeGranted, withMemory]
  · rw [Buffer.blockOf_add]
    simp only [largeGranted, withMemory_memory]

theorem handsOut_listed (holds : heap.Holds stock) {sizeClass : SizeClass} {block bytes : Nat}
    {rest : List Nat} (chain : stock.chains sizeClass = block :: rest)
    (small : bytes + BlockHeader.bytes ≤ BlockHeader.largestBlock)
    (chosen : SizeClass.holding (bytes + BlockHeader.bytes) = sizeClass) :
    heap.HandsOut stock (.pool (block + BlockHeader.bytes) bytes)
      (heap.handedOut sizeClass block bytes)
      ((stock.withChain sizeClass rest).withLive
        (.pool (block + BlockHeader.bytes) bytes :: stock.live)) := by
  have kept := holds.handedOut chain small chosen
  have blocks := (Buffer.small_as_block small chosen (block + BlockHeader.bytes)).2.2.2 sizeClass
  rw [if_pos rfl, Buffer.blockOf_add] at blocks
  refine ⟨.listed blocks chain, kept, kept.quiet_headed List.mem_cons_self
    ⟨BlockHeader.live, sizeClass.val, bytes⟩ rfl ?_⟩
  rw [Buffer.blockOf_add]
  exact handedOut_memory heap sizeClass block bytes

theorem handsOut_carved (holds : heap.Holds stock) {sizeClass : SizeClass} {index bytes : Nat}
    (unlisted : stock.chains sizeClass = [])
    (small : bytes + BlockHeader.bytes ≤ BlockHeader.largestBlock)
    (chosen : SizeClass.holding (bytes + BlockHeader.bytes) = sizeClass)
    (vacant : heap.pages.Vacant heap.memory index 1) :
    ∃ next, heap.HandsOut stock (.pool (heap.pages.address index + BlockHeader.bytes) bytes)
      (((heap.granted index 1).pushAll sizeClass
        (sizeClass.pageBlocks (heap.pages.address index))).handedOut sizeClass
          (heap.pages.address index) bytes) next := by
  obtain ⟨rest, blocks⟩ := pageBlocks_eq_cons sizeClass (heap.pages.address index)
  have stocked : (((heap.granted index 1).pushAll sizeClass
      (sizeClass.pageBlocks (heap.pages.address index)))).Holds
        (stock.restocked sizeClass (heap.pages.address index)) := holds.refilled vacant
  have front : (stock.restocked sizeClass (heap.pages.address index)).chains sizeClass =
      heap.pages.address index :: rest := by
    rw [Stock.restocked, Stock.withChain_chains, if_pos rfl, blocks, unlisted, List.append_nil]
  obtain ⟨_, kept, served⟩ := handsOut_listed stocked front small chosen
  have mine := (Buffer.small_as_block small chosen
    (heap.pages.address index + BlockHeader.bytes)).2.2.2 sizeClass
  rw [if_pos rfl, Buffer.blockOf_add] at mine
  refine ⟨_, .carved mine unlisted blocks, kept, ?_⟩
  -- The page is granted, then carved up, and then its first block gets a header.
  exact served.trans ((quiet_pushed _ (carved_grant _ List.mem_cons_self)).trans
    (holds.quiet_granted vacant _))

theorem handsOut_bytes (holds : heap.Holds stock) (bytes : Nat) :
    (Heap.allocateBytes bytes).outcome heap = (.ok none, heap) ∨
      ∃ address later next, (Heap.allocateBytes bytes).outcome heap = (.ok (some address), later) ∧
        heap.HandsOut stock (.pool address bytes) later next := by
  rcases Nat.lt_or_ge BlockHeader.largestBlock (bytes + BlockHeader.bytes) with large | small
  · rcases holds.allocateBytes_cases bytes with refused | ⟨_, bound, index, vacant, granted⟩ |
      ⟨small, _⟩
    · exact Or.inl refused
    · exact Or.inr ⟨_, _, _, granted, holds.handsOut_large large bound vacant⟩
    · exact absurd small (Nat.not_le_of_gt large)
  · obtain ⟨sizeClass, chosen⟩ : ∃ sizeClass,
      SizeClass.holding (bytes + BlockHeader.bytes) = sizeClass := ⟨_, rfl⟩
    cases chain : stock.chains sizeClass with
    | nil =>
        rw [holds.outcome_allocateBytes_unlisted small chosen chain]
        cases found : heap.pages.findFree heap.memory 1 with
        | none => exact Or.inl rfl
        | some index =>
            obtain ⟨next, handsOut⟩ := holds.handsOut_carved chain small chosen
              (PagePool.findFree_vacant found Nat.one_pos)
            exact Or.inr ⟨_, _, next, rfl, handsOut⟩
    | cons block rest =>
        rw [holds.outcome_allocateBytes_listed small chosen chain]
        exact Or.inr ⟨_, _, _, rfl, holds.handsOut_listed chain small chosen⟩

end Holds

theorem HandsOut.issued (handsOut : heap.HandsOut stock buffer later next) :
    buffer ∈ next.live := by
  rw [handsOut.issues.live]
  exact List.mem_cons_self

theorem HandsOut.filled (handsOut : heap.HandsOut stock buffer later next) {memory : Memory}
    (agrees : ∀ span : Span, buffer.span.Apart span →
      memory.Agrees later.memory span.start span.stop) :
    heap.HandsOut stock buffer (later.withMemory memory) next where
  issues := handsOut.issues
  holds := handsOut.holds.stored handsOut.issued agrees
  quiet := (handsOut.holds.quiet_stored handsOut.issued agrees).trans handsOut.quiet

/-! Taking back. -/

theorem TakesBack.of_perm {live : List Buffer} (permuted : stock.live.Perm live)
    (takesBack : heap.TakesBack (stock.withLive live) buffer later next) :
    heap.TakesBack stock buffer later next where
  returns := by
    cases takesBack.returns with
    | whole whole split => exact .whole whole (permuted.trans split)
    | listed small split => exact .listed small (permuted.trans split)
  holds := takesBack.holds
  quiet := by
    refine takesBack.quiet.mono ?_
    have same : (stock.withLive live).grants.Perm stock.grants :=
      (permuted.symm.filterMap _).append_right _
    exact same.subset
  retired := takesBack.retired

namespace Holds

theorem ground_released {base count : Nat}
    (freed : (freePages base count).outcome heap = (.ok (), later)) :
    later.pages = { heap.pages with free := later.pages.free } := by
  rw [outcome_freePages] at freed
  split at freed
  · cases freed
  · cases freed
    rfl

theorem takesBack_pages (holds : heap.Holds stock) {base count : Nat} {rest : List Buffer}
    (first : stock.live = .pages base count :: rest) :
    ∃ later, (freePages base count).outcome heap = (.ok (), later) ∧
      heap.TakesBack stock (.pages base count) later (stock.withLive rest) := by
  obtain ⟨later, freed, kept, agrees⟩ := holds.released first
  refine ⟨later, freed, .whole rfl (List.Perm.of_eq first), kept, ⟨ground_released freed, ?_⟩, ?_⟩
  · exact fun span clear _ => agrees span clear
  · intro pointer impossible
    cases impossible

theorem takesBack_listed (holds : heap.Holds stock) {address bytes : Nat} {rest : List Buffer}
    (first : stock.live = .pool address bytes :: rest) {sizeClass : SizeClass}
    (small : bytes + BlockHeader.bytes ≤ BlockHeader.largestBlock)
    (chosen : SizeClass.holding (bytes + BlockHeader.bytes) = sizeClass) :
    heap.TakesBack stock (.pool address bytes) (heap.push sizeClass (Buffer.blockOf address))
      ((stock.withChain sizeClass (Buffer.blockOf address :: stock.chains sizeClass)).withLive
        rest) := by
  have member : .pool address bytes ∈ stock.live := first ▸ List.mem_cons_self
  obtain ⟨_, _, extent, blocks⟩ := Buffer.small_as_block small chosen address
  obtain ⟨grant, granted, within⟩ := holds.extent_granted member
  rw [extent] at within
  refine ⟨.listed ((blocks _).trans (if_pos rfl)) (List.Perm.of_eq first),
    holds.takenBack first small chosen, ?_, ?_⟩
  · refine quiet_within rfl ?_ ⟨grant, granted, (freeBytes_within _ _).trans within⟩
    exact fun span apart => push_agrees heap _ apart.symm
  · intro pointer same
    cases same
    refine ⟨(holds.headers address bytes member).1, Or.inl ⟨sizeClass, ?_⟩⟩
    rw [Stock.withLive, Stock.withChain_chains, if_pos rfl]
    exact List.mem_cons_self

theorem header_blotted (holds : heap.Holds stock) {address bytes : Nat}
    (member : .pool address bytes ∈ stock.live)
    (large : BlockHeader.largestBlock < bytes + BlockHeader.bytes) :
    (heap.blotted address bytes).memory.readHeader (Buffer.blockOf address) =
      ⟨0, BlockHeader.largeClass, bytes⟩ := by
  have bound := (holds.headers address bytes member).2.1
  have fits : (⟨0, BlockHeader.largeClass, bytes⟩ : BlockHeader).Fits :=
    ⟨show 0 < _ by decide, show BlockHeader.largeClass < _ by decide,
      Nat.lt_of_le_of_lt (Nat.le_add_right _ _) bound⟩
  rw [blotted_memory, Buffer.mark, if_pos large, Memory.readHeader_writeHeader fits]

theorem first_page (holds : heap.Holds stock) {grant : Grant} {others : List Grant}
    (grants : stock.grants = grant :: others) :
    heap.pages.Places ⟨grant.base, 1⟩ ∧ ∀ other ∈ others, other.Apart ⟨grant.base, 1⟩ := by
  have member : grant ∈ stock.grants := by
    rw [grants]
    exact List.mem_cons_self
  obtain ⟨index, place, positive, inside⟩ := holds.records.placed grant member
  refine ⟨⟨index, place, Nat.one_pos, ?_⟩, fun other among => ?_⟩
  · show index + 1 ≤ heap.pages.total
    omega
  · have apart := holds.records.apart
    rw [grants, List.pairwise_cons] at apart
    have before : other.span.Apart grant.span := (apart.1 other among).symm
    have first : Span.Within (Grant.span ⟨grant.base, 1⟩) grant.span :=
      ⟨Nat.le_refl _, Nat.add_le_add_left (Nat.mul_le_mul_right _ positive) _⟩
    exact before.mono_right first

theorem takesBack_large (holds : heap.Holds stock) {address bytes : Nat} {rest : List Buffer}
    (first : stock.live = .pool address bytes :: rest)
    (large : BlockHeader.largestBlock < bytes + BlockHeader.bytes) :
    ∃ later, (freePages (Buffer.blockOf address)
        (Page.spanning (bytes + BlockHeader.bytes))).outcome (heap.blotted address bytes) =
          (.ok (), later) ∧
      heap.TakesBack stock (.pool address bytes) later (stock.withLive rest) := by
  have member : .pool address bytes ∈ stock.live := first ▸ List.mem_cons_self
  have grants : stock.grants =
      ⟨Buffer.blockOf address, Page.spanning (bytes + BlockHeader.bytes)⟩ ::
        (stock.withLive rest).grants := by
    rw [Stock.grants, first, List.filterMap_cons, (large_as_pages large 0).1]
    rfl
  obtain ⟨later, freed, kept, agrees⟩ := (holds.blotted first large).released rfl
  have ground := ground_released freed
  -- The header of the block is blotted out first; then the pages go back, and their bytes stay.
  have headed : (heap.blotted address bytes).Quiet heap stock.grants := by
    refine holds.quiet_headed member ⟨0, Buffer.mark bytes, bytes⟩ ?_ ?_
    · rw [blotted_pages]
    · rw [blotted_memory]
  have quiet : later.Quiet heap stock.grants :=
    Quiet.trans ⟨ground, fun span clear _ => agrees span clear⟩ headed
  rw [blotted_pages] at ground agrees
  refine ⟨later, freed, .whole (if_pos large) (List.Perm.of_eq first), kept, quiet, ?_⟩
  intro pointer same
  cases same
  obtain ⟨places, apart⟩ := holds.first_page grants
  refine ⟨(holds.headers address bytes member).1, Or.inr ⟨?_, ?_, apart⟩⟩
  · have clear := (holds.bitmaps_apart (holds.extent_within member)).mono_right
      (holds.header_within_extent member)
    rw [Memory.readHeader_congr (agrees _ clear), holds.header_blotted member large]
  · rw [ground]
    exact places

end Holds

end Heap

end PartitionBoot
