import PartitionBoot.Heap.MemoryServices
import PartitionBoot.Proofs.Heap.FreeLists
import PartitionBoot.Proofs.Heap.PageSteps

/-!
What clients hold and what the byte pool keeps. `Stock` lists both: the live buffers, the pages
that were carved into blocks and the free blocks of each class. `Heap.Holds` ties the lists to a
heap, and all that they name lies apart from each other because grants do and blocks of a page do.
-/

namespace PartitionBoot

def Grant.span (grant : Grant) : Span := ⟨grant.base, grant.stop⟩

namespace SizeClass

def span (sizeClass : SizeClass) (block : Nat) : Span := ⟨block, block + sizeClass.blockSize⟩

def pageBlocks (sizeClass : SizeClass) (page : Nat) : List Nat :=
  (List.range (Page.size / sizeClass.blockSize)).map fun index =>
    page + index * sizeClass.blockSize

theorem span_within_page {sizeClass : SizeClass} {page block : Nat}
    (member : block ∈ sizeClass.pageBlocks page) :
    (sizeClass.span block).Within (Grant.span ⟨page, 1⟩) := by
  have size : Page.size = 4096 := rfl
  obtain ⟨index, bound, rfl⟩ := List.mem_map.mp member
  have fill := sizeClass.blocks_fill_page
  have last : (index + 1) * sizeClass.blockSize ≤
      Page.size / sizeClass.blockSize * sizeClass.blockSize :=
    Nat.mul_le_mul_right _ (List.mem_range.mp bound)
  rw [Nat.add_mul] at last
  simp only [Span.Within, span, Grant.span, Grant.stop, Page.bytes]
  omega

theorem pageBlocks_apart (sizeClass : SizeClass) (page : Nat) :
    (sizeClass.pageBlocks page).Pairwise fun left right =>
      (sizeClass.span left).Apart (sizeClass.span right) := by
  rw [pageBlocks, List.pairwise_map]
  refine List.pairwise_lt_range.imp ?_
  intro left right before
  have step : (left + 1) * sizeClass.blockSize ≤ right * sizeClass.blockSize :=
    Nat.mul_le_mul_right _ before
  rw [Nat.add_mul] at step
  simp only [Span.Apart, span]
  omega

end SizeClass

/-- Memory that a client holds: pages, or a buffer of the byte pool with the bytes asked for. -/
inductive Buffer where
  | pages (base count : Nat)
  | pool (address bytes : Nat)
deriving DecidableEq

namespace Buffer

def span : Buffer → Span
  | pages base count => ⟨base, base + Page.bytes count⟩
  | pool address bytes => ⟨address, address + bytes⟩

def pointer? : Buffer → Option Nat
  | pages _ _ => none
  | pool address _ => some address

def blockOf (address : Nat) : Nat := address - BlockHeader.bytes

def grant? : Buffer → Option Grant
  | pages base count => some ⟨base, count⟩
  | pool address bytes =>
      if BlockHeader.largestBlock < bytes + BlockHeader.bytes then
        some ⟨blockOf address, Page.spanning (bytes + BlockHeader.bytes)⟩
      else none

def block? (sizeClass : SizeClass) : Buffer → Option Nat
  | pages _ _ => none
  | pool address bytes =>
      if bytes + BlockHeader.bytes ≤ BlockHeader.largestBlock ∧
          SizeClass.holding (bytes + BlockHeader.bytes) = sizeClass then
        some (blockOf address)
      else none

def mark (bytes : Nat) : Nat :=
  if BlockHeader.largestBlock < bytes + BlockHeader.bytes then BlockHeader.largeClass
  else (SizeClass.holding (bytes + BlockHeader.bytes)).val

def extent : Buffer → Span
  | pages base count => Grant.span ⟨base, count⟩
  | pool address bytes =>
      if BlockHeader.largestBlock < bytes + BlockHeader.bytes then
        Grant.span ⟨blockOf address, Page.spanning (bytes + BlockHeader.bytes)⟩
      else (SizeClass.holding (bytes + BlockHeader.bytes)).span (blockOf address)

theorem extent_cases (buffer : Buffer) :
    (∃ grant, buffer.grant? = some grant ∧ buffer.extent = grant.span ∧
      ∀ sizeClass, buffer.block? sizeClass = none) ∨
    ∃ sizeClass block, buffer.grant? = none ∧ buffer.block? sizeClass = some block ∧
      buffer.extent = sizeClass.span block := by
  cases buffer with
  | pages base count => exact Or.inl ⟨_, rfl, rfl, fun _ => rfl⟩
  | pool address bytes =>
      by_cases large : BlockHeader.largestBlock < bytes + BlockHeader.bytes
      · refine Or.inl ⟨_, if_pos large, if_pos large, ?_⟩
        intro sizeClass
        exact if_neg (by omega)
      · exact Or.inr ⟨_, _, if_neg large, if_pos ⟨by omega, rfl⟩, if_neg large⟩

theorem extent_whole {buffer : Buffer} {grant : Grant} (whole : buffer.grant? = some grant) :
    buffer.extent = grant.span := by
  rcases buffer.extent_cases with ⟨other, same, extent, _⟩ | ⟨_, _, none, _, _⟩
  · rw [extent, Option.some.inj (same.symm.trans whole)]
  · rw [none] at whole
    cases whole

theorem extent_small {buffer : Buffer} {sizeClass : SizeClass} {block : Nat}
    (small : buffer.block? sizeClass = some block) : buffer.extent = sizeClass.span block := by
  cases buffer with
  | pages base count => cases small
  | pool address bytes =>
      simp only [block?, Option.ite_none_right_eq_some, Option.some.injEq] at small
      obtain ⟨⟨fits, rfl⟩, rfl⟩ := small
      exact if_neg (by omega)

theorem pool_within (address bytes : Nat) (room : BlockHeader.bytes ≤ address) :
    Span.Within ⟨blockOf address, address + bytes⟩ (extent (pool address bytes)) := by
  by_cases large : BlockHeader.largestBlock < bytes + BlockHeader.bytes
  · have whole := Page.le_spanning (bytes + BlockHeader.bytes)
    simp only [Span.Within, extent, if_pos large, Grant.span, Grant.stop, blockOf]
    omega
  · have fits := SizeClass.le_blockSize_holding (Nat.le_of_not_lt large)
    simp only [Span.Within, extent, if_neg large, SizeClass.span, blockOf]
    omega

end Buffer

/-- What clients hold and what the byte pool keeps. -/
structure Stock where
  live : List Buffer
  /-- Pages that were carved into blocks, and of which class. -/
  carved : List (Nat × SizeClass)
  /-- The free blocks of each class, in the order of the free list. -/
  chains : SizeClass → List Nat

namespace Stock

def grants (stock : Stock) : List Grant :=
  stock.live.filterMap Buffer.grant? ++ stock.carved.map fun page => ⟨page.1, 1⟩

def liveBlocks (stock : Stock) (sizeClass : SizeClass) : List Nat :=
  stock.live.filterMap (Buffer.block? sizeClass)

def blocks (stock : Stock) (sizeClass : SizeClass) : List Nat :=
  stock.carved.flatMap fun page => if page.2 = sizeClass then sizeClass.pageBlocks page.1 else []

theorem mem_blocks {stock : Stock} {sizeClass : SizeClass} {block : Nat} :
    block ∈ stock.blocks sizeClass ↔
      ∃ page, (page, sizeClass) ∈ stock.carved ∧ block ∈ sizeClass.pageBlocks page := by
  simp only [blocks, List.mem_flatMap]
  constructor
  · rintro ⟨⟨page, other⟩, carved, member⟩
    by_cases same : other = sizeClass
    · subst other
      exact ⟨page, carved, by simpa using member⟩
    · simp [same] at member
  · rintro ⟨page, carved, member⟩
    exact ⟨(page, sizeClass), carved, by simpa using member⟩

end Stock

theorem PagePool.Places.within {pool : PagePool} {grant : Grant} (places : pool.Places grant) :
    grant.span.Within pool.span ∧ 0 < pool.total := by
  obtain ⟨index, base, positive, bound⟩ := places
  obtain ⟨first, count⟩ := grant
  change first = _ at base
  change index + count ≤ _ at bound
  change 0 < count at positive
  simp only [address_eq] at base
  simp only [Span.Within, Grant.span, Grant.stop, span, stop, address_eq, Page.bytes, Page.size]
  omega

namespace Heap

/-- A heap that is in the state which a stock describes. -/
structure Holds (heap : Heap) (stock : Stock) : Prop where
  shape : heap.pages.Shape
  records : heap.pages.Records heap.memory stock.grants
  linked : ∀ sizeClass : SizeClass,
    heap.memory.Linked sizeClass (heap.firstFree sizeClass) (stock.chains sizeClass)
  stocked : ∀ sizeClass : SizeClass,
    (stock.chains sizeClass ++ stock.liveBlocks sizeClass).Perm (stock.blocks sizeClass)
  headers : ∀ address bytes, Buffer.pool address bytes ∈ stock.live →
    BlockHeader.bytes ≤ address ∧ bytes + BlockHeader.bytes < UInt64.size ∧
    heap.memory.readHeader (Buffer.blockOf address) =
      ⟨BlockHeader.live, Buffer.mark bytes, bytes⟩

namespace Holds

variable {heap : Heap} {stock : Stock}

/-! What the stock names lies inside the pages of the pool. -/

theorem grant_within (holds : heap.Holds stock) {grant : Grant} (member : grant ∈ stock.grants) :
    grant.span.Within heap.pages.span ∧ 0 < heap.pages.total :=
  (holds.records.placed grant member).within

theorem live_grant (stock : Stock) {buffer : Buffer} {grant : Grant}
    (member : buffer ∈ stock.live) (whole : buffer.grant? = some grant) : grant ∈ stock.grants :=
  List.mem_append_left _ (List.mem_filterMap.mpr ⟨buffer, member, whole⟩)

theorem carved_grant (stock : Stock) {page : Nat} {sizeClass : SizeClass}
    (member : (page, sizeClass) ∈ stock.carved) : ⟨page, 1⟩ ∈ stock.grants :=
  List.mem_append_right _ (List.mem_map.mpr ⟨(page, sizeClass), member, rfl⟩)

theorem chain_block (holds : heap.Holds stock) {sizeClass : SizeClass} {block : Nat}
    (member : block ∈ stock.chains sizeClass) : block ∈ stock.blocks sizeClass :=
  (holds.stocked sizeClass).mem_iff.mp (List.mem_append_left _ member)

theorem live_block (holds : heap.Holds stock) {sizeClass : SizeClass} {buffer : Buffer}
    {block : Nat} (member : buffer ∈ stock.live) (small : buffer.block? sizeClass = some block) :
    block ∈ stock.blocks sizeClass :=
  (holds.stocked sizeClass).mem_iff.mp
    (List.mem_append_right _ (List.mem_filterMap.mpr ⟨buffer, member, small⟩))

theorem block_within (holds : heap.Holds stock) {sizeClass : SizeClass} {block : Nat}
    (member : block ∈ stock.blocks sizeClass) :
    (sizeClass.span block).Within heap.pages.span ∧ 0 < heap.pages.total := by
  obtain ⟨page, carved, inPage⟩ := Stock.mem_blocks.mp member
  obtain ⟨inside, positive⟩ := holds.grant_within (carved_grant stock carved)
  exact ⟨(SizeClass.span_within_page inPage).trans inside, positive⟩

theorem extent_within (holds : heap.Holds stock) {buffer : Buffer}
    (member : buffer ∈ stock.live) :
    buffer.extent.Within heap.pages.span ∧ 0 < heap.pages.total := by
  rcases buffer.extent_cases with ⟨grant, whole, extent, _⟩ | ⟨sizeClass, block, _, small, extent⟩
  · rw [extent]
    exact holds.grant_within (live_grant stock member whole)
  · rw [extent]
    exact holds.block_within (holds.live_block member small)

theorem bitmaps_apart (holds : heap.Holds stock) {span : Span}
    (within : span.Within heap.pages.span ∧ 0 < heap.pages.total) :
    heap.pages.bitmaps.Apart span := by
  obtain ⟨inside, positive⟩ := within
  have room := holds.shape.room positive
  simp only [Span.Apart, Span.Within, PagePool.bitmaps, PagePool.span] at *
  omega

/-! What the stock names lies apart from each other. -/

theorem carved_apart (holds : heap.Holds stock) :
    stock.carved.Pairwise fun left right => Grant.Apart ⟨left.1, 1⟩ ⟨right.1, 1⟩ :=
  List.pairwise_map.mp (List.pairwise_append.mp holds.records.apart).2.1

theorem blocks_apart (holds : heap.Holds stock) (sizeClass : SizeClass) :
    (stock.blocks sizeClass).Pairwise fun left right =>
      (sizeClass.span left).Apart (sizeClass.span right) := by
  rw [Stock.blocks, List.pairwise_flatMap]
  constructor
  · intro page _
    split
    · exact sizeClass.pageBlocks_apart page.1
    · exact List.Pairwise.nil
  · refine holds.carved_apart.imp ?_
    intro first second apart left inFirst right inSecond
    split at inFirst
    · split at inSecond
      · have pages : (Grant.span ⟨first.1, 1⟩).Apart (Grant.span ⟨second.1, 1⟩) := apart
        exact (pages.mono_left (SizeClass.span_within_page inFirst)).mono_right
          (SizeClass.span_within_page inSecond)
      · cases inSecond
    · cases inFirst

theorem classes_apart (holds : heap.Holds stock) {first second : SizeClass} {left right : Nat}
    (differ : first ≠ second) (inFirst : left ∈ stock.blocks first)
    (inSecond : right ∈ stock.blocks second) : (first.span left).Apart (second.span right) := by
  obtain ⟨page, carved, inPage⟩ := Stock.mem_blocks.mp inFirst
  obtain ⟨other, otherCarved, inOther⟩ := Stock.mem_blocks.mp inSecond
  have symmetric : Std.Symm fun left right : Nat × SizeClass =>
      Grant.Apart ⟨left.1, 1⟩ ⟨right.1, 1⟩ := ⟨fun _ _ => Or.symm⟩
  have pages : (Grant.span ⟨page, 1⟩).Apart (Grant.span ⟨other, 1⟩) :=
    holds.carved_apart.forall carved otherCarved fun same => differ (congrArg Prod.snd same)
  exact (pages.mono_left (SizeClass.span_within_page inPage)).mono_right
    (SizeClass.span_within_page inOther)

theorem grant_block_apart (holds : heap.Holds stock) {buffer : Buffer} {grant : Grant}
    {sizeClass : SizeClass} {block : Nat} (member : buffer ∈ stock.live)
    (whole : buffer.grant? = some grant) (inBlocks : block ∈ stock.blocks sizeClass) :
    grant.span.Apart (sizeClass.span block) := by
  obtain ⟨page, carved, inPage⟩ := Stock.mem_blocks.mp inBlocks
  have pages : grant.span.Apart (Grant.span ⟨page, 1⟩) :=
    (List.pairwise_append.mp holds.records.apart).2.2 grant
      (List.mem_filterMap.mpr ⟨buffer, member, whole⟩) ⟨page, 1⟩
      (List.mem_map.mpr ⟨(page, sizeClass), carved, rfl⟩)
  exact pages.mono_right (SizeClass.span_within_page inPage)

theorem stocked_apart (holds : heap.Holds stock) (sizeClass : SizeClass) :
    (stock.chains sizeClass ++ stock.liveBlocks sizeClass).Pairwise fun left right =>
      (sizeClass.span left).Apart (sizeClass.span right) :=
  ((holds.stocked sizeClass).pairwise_iff Span.Apart.symm).mpr (holds.blocks_apart sizeClass)

theorem chain_apart (holds : heap.Holds stock) (sizeClass : SizeClass) :
    (stock.chains sizeClass).Pairwise fun left right =>
      (sizeClass.span left).Apart (sizeClass.span right) :=
  (List.pairwise_append.mp (holds.stocked_apart sizeClass)).1

theorem free_apart (holds : heap.Holds stock) {buffer : Buffer} {sizeClass : SizeClass}
    {block : Nat} (member : buffer ∈ stock.live) (free : block ∈ stock.chains sizeClass) :
    buffer.extent.Apart (sizeClass.span block) := by
  rcases buffer.extent_cases with ⟨grant, whole, extent, _⟩ | ⟨other, mine, _, small, extent⟩
  · rw [extent]
    exact holds.grant_block_apart member whole (holds.chain_block free)
  · rw [extent]
    by_cases same : other = sizeClass
    · subst other
      exact ((List.pairwise_append.mp (holds.stocked_apart sizeClass)).2.2 block free mine
        (List.mem_filterMap.mpr ⟨buffer, member, small⟩)).symm
    · exact holds.classes_apart same (holds.live_block member small) (holds.chain_block free)

theorem live_apart (holds : heap.Holds stock) :
    stock.live.Pairwise fun left right => left.extent.Apart right.extent := by
  have wholes := List.pairwise_filterMap.mp (List.pairwise_append.mp holds.records.apart).1
  have smalls (sizeClass : SizeClass) := List.pairwise_filterMap.mp
    (List.pairwise_append.mp (holds.stocked_apart sizeClass)).2.1
  rw [List.pairwise_iff_getElem] at wholes ⊢
  simp only [List.pairwise_iff_getElem] at smalls
  intro first second firstBound secondBound before
  have inFirst := List.getElem_mem firstBound
  have inSecond := List.getElem_mem secondBound
  have apartWholes := wholes first second firstBound secondBound before
  have apartSmalls := fun sizeClass => smalls sizeClass first second firstBound secondBound before
  generalize stock.live[first] = left at *
  generalize stock.live[second] = right at *
  rcases left.extent_cases with ⟨grant, whole, extent, _⟩ | ⟨mine, block, _, small, extent⟩
  · rcases right.extent_cases with
      ⟨other, otherWhole, otherExtent, _⟩ | ⟨other, otherBlock, _, otherSmall, otherExtent⟩
    · rw [extent, otherExtent]
      exact apartWholes grant whole other otherWhole
    · rw [extent, otherExtent]
      exact holds.grant_block_apart inFirst whole (holds.live_block inSecond otherSmall)
  · rcases right.extent_cases with
      ⟨other, otherWhole, otherExtent, _⟩ | ⟨other, otherBlock, _, otherSmall, otherExtent⟩
    · rw [extent, otherExtent]
      exact (holds.grant_block_apart inSecond otherWhole (holds.live_block inFirst small)).symm
    · rw [extent, otherExtent]
      by_cases same : mine = other
      · subst other
        exact apartSmalls mine block small otherBlock otherSmall
      · exact holds.classes_apart same (holds.live_block inFirst small)
          (holds.live_block inSecond otherSmall)

theorem live_apart_of_ne (holds : heap.Holds stock) {left right : Buffer}
    (first : left ∈ stock.live) (second : right ∈ stock.live) (differ : left ≠ right) :
    left.extent.Apart right.extent := by
  have symmetric : Std.Symm fun left right : Buffer => left.extent.Apart right.extent :=
    ⟨fun _ _ => Or.symm⟩
  exact holds.live_apart.forall first second differ

end Holds

end Heap

end PartitionBoot
