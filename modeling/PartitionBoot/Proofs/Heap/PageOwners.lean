import PartitionBoot.Proofs.Heap.StockRun

/-!
Whose pages a free of pages accepts. The page pool does not tell grants of clients from those of the
byte pool: besides the pages that clients hold it takes back the pages of a live large buffer and
every page that small buffers were ever handed out from.
-/

namespace PartitionBoot

/-- The byte pool holds the pages: they are those of a live large buffer, or one page that a small
buffer came from. -/
def ServiceHistory.PoolHolds (past : ServiceHistory) (base count : Nat) : Prop :=
  (∃ pointer bytes, .pool pointer bytes ∈ past.live ∧
    BlockHeader.largestBlock < bytes + BlockHeader.bytes ∧
    base + BlockHeader.bytes = pointer ∧ count = Page.spanning (bytes + BlockHeader.bytes)) ∨
  count = 1 ∧ base % Page.size = 0 ∧ ∃ pointer bytes, .pool pointer bytes ∈ past.issued ∧
    bytes + BlockHeader.bytes ≤ BlockHeader.largestBlock ∧
    base ≤ pointer ∧ pointer < base + Page.size

namespace Heap

variable {heap later : Heap} {stock next : Stock} {buffer : Buffer} {given : Option Buffer}
  {taken : Option Nat}

theorem Turns.carved_cases (turns : heap.Turns stock given taken later next) :
    next.carved = stock.carved ∨ ∃ buffer page sizeClass, given = some buffer ∧
      buffer.block? sizeClass = some page ∧ next.carved = (page, sizeClass) :: stock.carved := by
  cases given with
  | none => exact Or.inl turns.carved_eq
  | some buffer =>
      obtain ⟨_, _, handsOut, same⟩ := turns.handsOut
      rw [same]
      rcases handsOut.issues.carved_cases with same | ⟨page, sizeClass, small, more⟩
      · exact Or.inl same
      · exact Or.inr ⟨buffer, page, sizeClass, rfl, small, more⟩

theorem Turns.room (turns : heap.Turns stock given taken later next) {pointer bytes : Nat}
    (handed : given = some (.pool pointer bytes)) : BlockHeader.bytes ≤ pointer := by
  subst handed
  obtain ⟨_, _, handsOut, _⟩ := turns.handsOut
  exact (handsOut.holds.headers pointer bytes handsOut.issued).1

theorem Turns.page (turns : heap.Turns stock given taken later next) {sizeClass : SizeClass}
    {block : Nat} (handed : given = some buffer) (small : buffer.block? sizeClass = some block) :
    ∃ page, (page, sizeClass) ∈ next.carved ∧ block ∈ sizeClass.pageBlocks page := by
  subst handed
  obtain ⟨_, _, handsOut, same⟩ := turns.handsOut
  rw [same]
  exact Stock.mem_blocks.mp (handsOut.holds.live_block handsOut.issued small)

end Heap

theorem Buffer.block?_eq_some {buffer : Buffer} {sizeClass : SizeClass} {block : Nat}
    (small : buffer.block? sizeClass = some block) :
    ∃ pointer bytes, buffer = .pool pointer bytes ∧ blockOf pointer = block ∧
      bytes + BlockHeader.bytes ≤ BlockHeader.largestBlock := by
  cases buffer with
  | pages base count => cases small
  | pool pointer bytes =>
      simp only [block?, Option.ite_none_right_eq_some, Option.some.injEq] at small
      exact ⟨pointer, bytes, rfl, small.2, small.1.1⟩

variable {region : AddressRange} {memory : Memory} {past : ServiceHistory} {heap : Heap}
  {stock : Stock}

namespace StockRun

theorem carved_issued (run : StockRun region memory past heap stock) {page : Nat}
    {sizeClass : SizeClass} (carved : (page, sizeClass) ∈ stock.carved) :
    ∃ pointer bytes, .pool pointer bytes ∈ past.issued ∧
      bytes + BlockHeader.bytes ≤ BlockHeader.largestBlock ∧
      pointer = page + BlockHeader.bytes := by
  induction run with
  | start => cases carved
  | call _ moves ih =>
      rcases moves.turns.carved_cases with same | ⟨buffer, first, other, given, small, more⟩
      · rw [same] at carved
        obtain ⟨pointer, bytes, issued, rest⟩ := ih carved
        exact ⟨pointer, bytes, List.mem_append_right _ issued, rest⟩
      · rw [more] at carved
        rcases List.mem_cons.mp carved with new | before
        · cases new
          obtain ⟨pointer, bytes, rfl, place, fits⟩ := Buffer.block?_eq_some small
          have room := moves.turns.room given
          refine ⟨pointer, bytes, List.mem_append_left _ ?_, fits, ?_⟩
          · rw [given]
            exact List.mem_cons_self
          · rw [← place, Buffer.blockOf, Nat.sub_add_cancel room]
        · obtain ⟨pointer, bytes, issued, rest⟩ := ih before
          exact ⟨pointer, bytes, List.mem_append_right _ issued, rest⟩

theorem issued_carved (run : StockRun region memory past heap stock) {pointer bytes : Nat}
    (issued : .pool pointer bytes ∈ past.issued)
    (small : bytes + BlockHeader.bytes ≤ BlockHeader.largestBlock) :
    ∃ page sizeClass, (page, sizeClass) ∈ stock.carved ∧ page ≤ pointer ∧
      pointer < page + Page.size := by
  induction run with
  | start => cases issued
  | call _ moves ih =>
      rcases List.mem_append.mp issued with new | old
      · have given := Option.mem_toList.mp new
        obtain ⟨_, _, _, blocks⟩ := Buffer.small_as_block small rfl pointer
        obtain ⟨page, carved, inPage⟩ :=
          moves.turns.page given ((blocks _).trans (if_pos rfl))
        have within := SizeClass.span_within_page inPage
        have room := moves.turns.room given
        have bounds := (SizeClass.holding (bytes + BlockHeader.bytes)).blockSize_bounds
        have header : BlockHeader.bytes = 16 := rfl
        refine ⟨page, _, carved, ?_⟩
        simp only [Span.Within, SizeClass.span, Grant.span, Grant.stop, Page.bytes,
          Buffer.blockOf] at within
        omega
      · obtain ⟨page, sizeClass, carved, bounds⟩ := ih old
        refine ⟨page, sizeClass, ?_, bounds⟩
        rcases moves.turns.carved_cases with same | ⟨_, _, _, _, _, more⟩
        · rw [same]
          exact carved
        · rw [more]
          exact List.mem_cons_of_mem _ carved

theorem carved_aligned (run : StockRun region memory past heap stock) {page : Nat}
    {sizeClass : SizeClass} (carved : (page, sizeClass) ∈ stock.carved) :
    page % Page.size = 0 := by
  have size : Page.size = 4096 := rfl
  have holds := run.holds
  have places := holds.records.placed _ (Heap.Holds.carved_grant stock carved)
  have aligned := holds.shape.aligned places.within.2
  obtain ⟨index, base, _, _⟩ := places
  change page = _ at base
  rw [base, PagePool.address_eq]
  rw [size] at aligned ⊢
  omega

theorem poolHolds_iff (run : StockRun region memory past heap stock) (base count : Nat) :
    past.PoolHolds base count ↔
      (∃ pointer bytes, .pool pointer bytes ∈ stock.live ∧
        (Buffer.pool pointer bytes).grant? = some ⟨base, count⟩) ∨
      ∃ sizeClass, count = 1 ∧ (base, sizeClass) ∈ stock.carved := by
  have size : Page.size = 4096 := rfl
  have header : BlockHeader.bytes = 16 := rfl
  rw [ServiceHistory.PoolHolds, ← run.live]
  constructor
  · rintro (⟨pointer, bytes, live, large, place, rfl⟩ |
      ⟨rfl, aligned, pointer, bytes, issued, small, lower, upper⟩)
    · refine Or.inl ⟨pointer, bytes, live, ?_⟩
      rw [Buffer.grant?, if_pos large, Buffer.blockOf, ← place, Nat.add_sub_cancel]
    · obtain ⟨page, sizeClass, carved, first, last⟩ := run.issued_carved issued small
      have whole := run.carved_aligned carved
      rw [size] at *
      have same : base = page := by omega
      exact Or.inr ⟨sizeClass, rfl, same ▸ carved⟩
  · rintro (⟨pointer, bytes, live, granted⟩ | ⟨sizeClass, rfl, carved⟩)
    · have room := (run.holds.headers pointer bytes live).1
      simp only [Buffer.grant?, Option.ite_none_right_eq_some, Option.some.injEq,
        Grant.mk.injEq, Buffer.blockOf] at granted
      obtain ⟨large, rfl, rfl⟩ := granted
      exact Or.inl ⟨pointer, bytes, live, large, Nat.sub_add_cancel room, rfl⟩
    · obtain ⟨pointer, bytes, issued, small, place⟩ := run.carved_issued carved
      exact Or.inr ⟨rfl, run.carved_aligned carved, pointer, bytes, issued, small,
        by omega, by omega⟩

theorem mem_grants_iff (run : StockRun region memory past heap stock) (base count : Nat) :
    ⟨base, count⟩ ∈ stock.grants ↔ .pages base count ∈ past.live ∨ past.PoolHolds base count := by
  rw [run.poolHolds_iff, ← run.live]
  constructor
  · intro granted
    rcases List.mem_append.mp granted with whole | single
    · obtain ⟨buffer, live, grant⟩ := List.mem_filterMap.mp whole
      cases buffer with
      | pages first length =>
          cases grant
          exact Or.inl live
      | pool pointer bytes => exact Or.inr (Or.inl ⟨pointer, bytes, live, grant⟩)
    · obtain ⟨⟨page, sizeClass⟩, carved, same⟩ := List.mem_map.mp single
      cases same
      exact Or.inr (Or.inr ⟨sizeClass, rfl, carved⟩)
  · rintro (client | ⟨pointer, bytes, live, granted⟩ | ⟨sizeClass, rfl, carved⟩)
    · exact Heap.Holds.live_grant stock client rfl
    · exact Heap.Holds.live_grant stock live granted
    · exact Heap.Holds.carved_grant stock carved

/-- No page is held twice. -/
theorem not_poolHolds (run : StockRun region memory past heap stock) {base count : Nat}
    (client : .pages base count ∈ past.live) : ¬ past.PoolHolds base count := by
  have holds := run.holds
  rw [run.poolHolds_iff]
  rw [← run.live] at client
  have granted := Heap.Holds.live_grant stock client rfl
  rintro (⟨pointer, bytes, live, same⟩ | ⟨sizeClass, rfl, carved⟩)
  · have apart := holds.live_apart_of_ne client live Buffer.noConfusion
    rw [Buffer.extent_whole same, Buffer.extent_whole rfl] at apart
    have positive := holds.records.positive granted
    simp only [Span.Apart, Grant.span, Grant.stop, Page.bytes, Page.size] at apart positive
    omega
  · exact (List.nodup_append.mp holds.records.nodup).2.2 ⟨base, 1⟩
      (List.mem_filterMap.mpr ⟨_, client, rfl⟩) ⟨base, 1⟩
      (List.mem_map.mpr ⟨(base, sizeClass), carved, rfl⟩) rfl

theorem outcome_freePages (run : StockRun region memory past heap stock) (base count : Nat) :
    (⟨base, count⟩ ∈ stock.grants →
      ∃ later, (Heap.freePages base count).outcome heap = (.ok (), later)) ∧
    (⟨base, count⟩ ∉ stock.grants →
      (Heap.freePages base count).outcome heap = (.error (.unmatchedFree base count), heap)) := by
  have absent := run.holds.records.grantIndex?_eq_none_iff run.holds.shape base count
  rw [Heap.outcome_freePages]
  cases found : heap.pages.grantIndex? heap.memory base count with
  | none => exact ⟨fun granted => absurd granted (absent.mp found), fun _ => rfl⟩
  | some index =>
      refine ⟨fun _ => ⟨_, rfl⟩, fun missing => ?_⟩
      rw [absent.mpr missing] at found
      cases found

end StockRun

/-- A free of pages is accepted for the pages that clients hold and for those that the byte pool
holds, and for no other ones. So it tells what clients hold exactly where the byte pool holds
nothing. -/
theorem freePages_tells_clients_iff (run : ServiceRun region memory past heap) (base count : Nat) :
    ((∃ later, (MemoryServices.freePages base count).outcome heap = (.ok (), later)) ↔
      .pages base count ∈ past.live ∨ past.PoolHolds base count) ∧
    (¬ (.pages base count ∈ past.live ∨ past.PoolHolds base count) →
      (MemoryServices.freePages base count).outcome heap =
        (.error (.unmatchedFree base count), heap)) ∧
    (((∃ later, (MemoryServices.freePages base count).outcome heap = (.ok (), later)) ↔
      .pages base count ∈ past.live) ↔ ¬ past.PoolHolds base count) := by
  obtain ⟨stock, stocked⟩ := run.stockRun
  obtain ⟨accepted, refused⟩ := stocked.outcome_freePages base count
  rw [stocked.mem_grants_iff] at accepted refused
  have accepts : (∃ later, (MemoryServices.freePages base count).outcome heap = (.ok (), later)) ↔
      .pages base count ∈ past.live ∨ past.PoolHolds base count := by
    constructor
    · rintro ⟨later, freed⟩
      by_contra missing
      have stopped := (refused missing).symm.trans freed
      cases stopped
    · exact accepted
  refine ⟨accepts, refused, ?_⟩
  rw [accepts]
  constructor
  · intro tells held
    exact stocked.not_poolHolds (tells.mp (Or.inr held)) held
  · intro free
    exact ⟨fun either => either.resolve_right free, Or.inl⟩

/-- A small buffer was handed out, and its page goes back under its feet. -/
theorem freePages_tells_small_page :
    let past : ServiceHistory := [(.allocatePool .runtime 1500, .ok (some 0x17010))]
    ∃ heap, ServiceRun ⟨0x10000, 0x8000⟩ Memory.zeroed past heap ∧ past.PoolHolds 0x17000 1 ∧
      ¬ ((∃ later, (MemoryServices.freePages 0x17000 1).outcome heap = (.ok (), later)) ↔
        .pages 0x17000 1 ∈ past.live) := by
  intro past
  have run : ServiceRun ⟨0x10000, 0x8000⟩ Memory.zeroed past _ :=
    .call .start trivial (by decide +kernel)
  have held : past.PoolHolds 0x17000 1 :=
    Or.inr ⟨rfl, by decide, 0x17010, 1500, by decide, by decide, by decide, by decide⟩
  exact ⟨_, run, held, fun tells => (freePages_tells_clients_iff run 0x17000 1).2.2.mp tells held⟩

/-- The page of a live buffer is taken back as if it were a page grant and granted to the next
client that asks for a page. -/
theorem page_of_live_buffer_granted_again :
    let past : ServiceHistory := [(.allocatePool .runtime 1500, .ok (some 0x17010))]
    ∃ heap, ServiceRun ⟨0x10000, 0x8000⟩ Memory.zeroed past heap ∧
      past.live = [.pool 0x17010 1500] ∧
      let freed := (MemoryServices.freePages 0x17000 1).outcome heap
      freed.1 = .ok () ∧
        ((MemoryServices.allocatePages .runtime 1).outcome freed.2).1 = .ok (some 0x17000) := by
  intro past
  exact ⟨_, .call .start trivial (by decide +kernel), rfl, by decide +kernel, by decide +kernel⟩

end PartitionBoot
