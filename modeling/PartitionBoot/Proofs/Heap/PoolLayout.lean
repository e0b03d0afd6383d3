import PartitionBoot.Proofs.Heap.Grants
import PartitionBoot.Proofs.Page
import PartitionBoot.Proofs.Span

/-!
How a pool is laid over a range of addresses. Its whole pages are counted, the leading ones are kept
for the bitmaps that describe the others, and nothing that is computed on the way leaves a word.
-/

namespace PartitionBoot

theorem alignUp_eq_ceilDiv_mul (offset : Nat) {alignment : Nat} (positive : 0 < alignment) :
    alignUp offset alignment = (offset ⌈/⌉ alignment) * alignment := by
  rw [alignUp, Nat.ceilDiv_eq_add_pred_div, Nat.add_sub_assoc positive]

namespace AddressRange

def span (range : AddressRange) : Span := ⟨range.base.toNat, range.base.toNat + range.size.toNat⟩

/-- The first page from the start of a range on, where page zero begins at address zero. -/
def firstPage (range : AddressRange) : Nat := range.base.toNat ⌈/⌉ Page.size

/-- The first page that does not lie inside of a range any more. The last page of the address space
counts as one where the range reaches it. -/
def stopPage (range : AddressRange) : Nat :=
  if range.base.toNat + range.size.toNat < UInt64.size then
    (range.base.toNat + range.size.toNat) / Page.size
  else (UInt64.size - Page.size) / Page.size

def wholePages (range : AddressRange) : Nat := range.stopPage - range.firstPage

theorem bytes_firstPage (range : AddressRange) :
    Page.bytes range.firstPage = alignUp range.base.toNat Page.size :=
  (alignUp_eq_ceilDiv_mul _ (by decide)).symm

theorem bytes_stopPage (range : AddressRange) :
    (range.end?.map fun stop => stop.toNat / Page.size * Page.size).getD
      (UInt64.size - Page.size) = Page.bytes range.stopPage := by
  rw [stopPage, end?]
  split
  · rename_i ends
    rw [Option.map_some, Option.getD_some, UInt64.toNat_add, Nat.mod_eq_of_lt ends, Page.bytes]
  · rfl

theorem stopPage_le (range : AddressRange) :
    Page.bytes range.stopPage ≤ range.span.stop ∧ Page.bytes range.stopPage < UInt64.size := by
  have limit : UInt64.size = 18446744073709551616 := rfl
  have size : Page.size = 4096 := rfl
  rw [stopPage, span, Page.bytes]
  split <;> simp only [limit, size] at * <;> omega

theorem base_le_firstPage (range : AddressRange) :
    range.base.toNat ≤ Page.bytes range.firstPage := by
  rw [bytes_firstPage]
  exact le_alignUp _ (by decide)

theorem wholePages_beyond {range : AddressRange}
    (beyond : UInt64.size ≤ range.base.toNat + (Page.size - 1)) : range.wholePages = 0 := by
  have limit : UInt64.size = 18446744073709551616 := rfl
  have last := range.stopPage_le.2
  have first := range.base_le_firstPage
  simp only [wholePages, Page.bytes, Page.size, limit] at *
  omega

theorem bytes_wholePages (range : AddressRange) :
    Page.bytes range.wholePages = Page.bytes range.stopPage - Page.bytes range.firstPage :=
  Nat.sub_mul _ _ _

def alignedBase (range : AddressRange) : Nat :=
  if range.base.toNat + (Page.size - 1) < UInt64.size then alignUp range.base.toNat Page.size
  else range.base.toNat

theorem alignedBase_of_whole {range : AddressRange}
    (whole : range.base.toNat + (Page.size - 1) < UInt64.size) :
    range.alignedBase = Page.bytes range.firstPage := by
  rw [bytes_firstPage]
  exact if_pos whole

theorem alignedBase_eq {range : AddressRange} (present : 0 < range.wholePages) :
    range.alignedBase = Page.bytes range.firstPage := by
  refine alignedBase_of_whole ?_
  by_contra beyond
  rw [wholePages_beyond (Nat.le_of_not_lt beyond)] at present
  exact Nat.lt_irrefl 0 present

theorem wholePages_end {range : AddressRange} (present : 0 < range.wholePages) :
    range.alignedBase + Page.bytes range.wholePages = Page.bytes range.stopPage := by
  rw [alignedBase_eq present, bytes_wholePages]
  exact Nat.add_sub_cancel' (Nat.mul_le_mul_right _ (Nat.le_of_lt (Nat.lt_of_sub_pos present)))

theorem wholePages_bounded (range : AddressRange) :
    range.alignedBase + Page.bytes range.wholePages < UInt64.size := by
  rcases Nat.eq_zero_or_pos range.wholePages with absent | present
  · rw [absent, Page.bytes, Nat.zero_mul, Nat.add_zero, alignedBase]
    split
    · rename_i whole
      exact Nat.lt_of_le_of_lt (Nat.div_mul_le_self _ _) whole
    · exact range.base.toNat_lt_size
  · rw [wholePages_end present]
    exact range.stopPage_le.2

theorem wholePages_within (range : AddressRange) (present : 0 < range.wholePages) :
    Span.Within ⟨range.alignedBase, range.alignedBase + Page.bytes range.wholePages⟩
      range.span := by
  refine ⟨?_, ?_⟩
  · rw [alignedBase_eq present]
    exact range.base_le_firstPage
  · rw [wholePages_end present]
    exact range.stopPage_le.1

end AddressRange

def word? (value : Nat) : Option Nat := if value < UInt64.size then some value else none

theorem word?_bind {α : Type} {value : Nat} (fits : value < 18446744073709551616)
    (next : Nat → Option α) : (word? value >>= next) = next value := by
  rw [word?, if_pos fits]
  rfl

namespace PagePool

def span (pool : PagePool) : Span := ⟨pool.first, pool.stop⟩

def bitmaps (pool : PagePool) : Span := ⟨pool.bitmap, pool.bitmap + 16 * pool.words⟩

theorem halves_within (pool : PagePool) :
    Span.Within ⟨pool.bitmap, pool.heads⟩ pool.bitmaps ∧
      Span.Within ⟨pool.heads, pool.bitmaps.stop⟩ pool.bitmaps := by
  simp only [Span.Within, bitmaps, heads]
  omega

theorem bits_covered {pool : PagePool} {page : Nat} (inside : page < pool.slots) :
    Span.Covers ⟨pool.bitmap, pool.heads⟩ (pool.bitmap + page / 8) ∧
      Span.Covers ⟨pool.heads, pool.bitmaps.stop⟩ (pool.heads + page / 8) := by
  have slots := pool.slots_le
  simp only [Span.Covers, bitmaps, heads]
  omega

theorem Shape.range_span {pool : PagePool} (shape : pool.Shape) : pool.range.span = pool.span := by
  obtain ⟨base, stop⟩ := shape.range_eq
  rw [AddressRange.span, stop, base]
  rfl

theorem Shape.within {pool : PagePool} (shape : pool.Shape) (present : 0 < pool.total) :
    pool.bitmaps.Within ⟨pool.bitmap, pool.stop⟩ ∧
      pool.span.Within ⟨pool.bitmap, pool.stop⟩ := by
  have room := shape.room present
  simp only [Span.Within, bitmaps, span, stop, address]
  omega

theorem Shape.range_size {pool : PagePool} (shape : pool.Shape) :
    pool.range.size.toNat = Page.bytes pool.total := by
  obtain ⟨base, stop⟩ := shape.range_eq
  rw [base] at stop
  exact Nat.add_left_cancel stop

def poolOver (base pages : Nat) : PagePool :=
  let words := (pages + 63) / 64
  let bookkeeping := min (Page.spanning (16 * words)) pages
  { bitmap := base
    words
    first := base + Page.bytes bookkeeping
    total := pages - bookkeeping
    free := pages - bookkeeping }

theorem poolOver_total (base pages : Nat) : (poolOver base pages).total =
    pages - min pages ((16 * (pages ⌈/⌉ 64)) ⌈/⌉ Page.size) := by
  rw [← Page.spanning_eq_ceilDiv, Nat.ceilDiv_eq_add_pred_div, Nat.min_comm]
  rfl

theorem poolOver_stop (base pages : Nat) :
    (poolOver base pages).stop = base + Page.bytes pages := by
  simp only [poolOver, stop, address, Page.bytes]
  rw [Nat.add_assoc, ← Nat.add_mul, Nat.add_sub_cancel' (Nat.min_le_right _ _)]

theorem create_eq (range : AddressRange) (memory : Memory) :
    create range memory = (poolOver range.alignedBase range.wholePages,
      if 0 < (poolOver range.alignedBase range.wholePages).total then
        memory.fill range.alignedBase 0
          (16 * (poolOver range.alignedBase range.wholePages).words)
      else memory) := by
  by_cases whole : range.base.toNat + (Page.size - 1) < UInt64.size
  · have pages : (Page.bytes range.stopPage - Page.bytes range.firstPage) / Page.size =
        range.wholePages := by
      rw [← range.bytes_wholePages]
      exact Nat.mul_div_cancel _ (by decide)
    rw [range.bytes_firstPage, ← range.bytes_stopPage] at pages
    cases found : range.end? <;>
      simp only [found, Option.map, Option.getD] at pages <;>
      simp only [create, poolOver, AddressRange.alignedBase, if_pos whole, found, pages]
  · rw [AddressRange.wholePages_beyond (Nat.le_of_not_lt whole)]
    simp only [create, poolOver, AddressRange.alignedBase, if_neg whole]

theorem create_poolOver (range : AddressRange) (memory : Memory) :
    ∃ base pages, (0 < pages → base % Page.size = 0) ∧ base + Page.bytes pages < UInt64.size ∧
      (create range memory).1 = poolOver base pages ∧
      ((create range memory).2 = if 0 < (poolOver base pages).total then
        memory.fill base 0 (16 * (poolOver base pages).words) else memory) ∧
      (0 < pages → range.base.toNat ≤ base ∧
        base + Page.bytes pages ≤ range.base.toNat + range.size.toNat) := by
  rw [create_eq]
  refine ⟨range.alignedBase, range.wholePages, ?_, range.wholePages_bounded, rfl, rfl, ?_⟩
  · intro present
    rw [AddressRange.alignedBase_eq present, Page.bytes, Nat.mul_mod_left]
  · intro present
    simpa only [Span.Within, AddressRange.span] using range.wholePages_within present

theorem create_bitmap (range : AddressRange) (memory : Memory) :
    range.base.toNat ≤ (create range memory).1.bitmap ∧
      (create range memory).1.bitmap < range.base.toNat + Page.size := by
  have size : Page.size = 4096 := rfl
  simp only [create]
  split
  · simp only [alignUp, size]
    omega
  · simp only [size]
    omega

theorem create_inside (range : AddressRange) (memory : Memory)
    (room : Page.size ≤ range.size.toNat) :
    let pool := (create range memory).1
    range.base.toNat ≤ pool.range.base.toNat ∧
      pool.range.base.toNat + pool.range.size.toNat ≤ range.base.toNat + range.size.toNat := by
  intro pool
  obtain ⟨base, pages, -, bound, same, -, inside⟩ := create_poolOver range memory
  have near : range.base.toNat ≤ base ∧ base < range.base.toNat + Page.size := by
    have bounds := create_bitmap range memory
    rw [same] at bounds
    exact bounds
  have size : Page.size = 4096 := rfl
  have limit : UInt64.size = 18446744073709551616 := rfl
  have fewer : min (Page.spanning (16 * ((pages + 63) / 64))) pages ≤ pages := Nat.min_le_right _ _
  simp only [pool, same, PagePool.range, poolOver, Page.bytes, UInt64.toNat_ofNat', size, limit]
    at room near inside bound ⊢
  generalize min (Page.spanning (16 * ((pages + 63) / 64))) pages = bookkeeping at fewer ⊢
  omega

theorem shape_poolOver {base pages : Nat} (aligned : 0 < pages → base % Page.size = 0)
    (bound : base + Page.bytes pages < UInt64.size) : (poolOver base pages).Shape := by
  have size : Page.size = 4096 := rfl
  have room := Page.le_spanning (16 * ((pages + 63) / 64))
  simp only [Page.bytes, size] at bound room
  constructor
  · simp only [poolOver]
    omega
  · simp only [poolOver, Page.bytes, size]
    omega
  · simp only [poolOver, Page.bytes, size] at aligned ⊢
    omega
  · rwa [poolOver_stop]

theorem shape_create (range : AddressRange) (memory : Memory) :
    (create range memory).1.Shape := by
  obtain ⟨base, pages, aligned, bound, pool, _⟩ := create_poolOver range memory
  rw [pool]
  exact shape_poolOver aligned bound

theorem create_total (range : AddressRange) (memory : Memory) : (create range memory).1.total =
    range.wholePages - min range.wholePages ((16 * (range.wholePages ⌈/⌉ 64)) ⌈/⌉ Page.size) := by
  rw [create_eq, poolOver_total]

theorem create_free (range : AddressRange) (memory : Memory) :
    (create range memory).1.free = (create range memory).1.total := by
  rw [create_eq]
  rfl

/-- A pool that has pages goes from the first page boundary of its range to the last one. -/
theorem create_ends {range : AddressRange} {memory : Memory}
    (present : 0 < (create range memory).1.total) :
    (create range memory).1.bitmap = Page.bytes range.firstPage ∧
      (create range memory).1.stop = Page.bytes range.stopPage := by
  have whole : 0 < range.wholePages := by
    rw [create_total] at present
    exact Nat.lt_of_lt_of_le present (Nat.sub_le _ _)
  rw [create_eq]
  constructor
  · rw [poolOver, AddressRange.alignedBase_eq whole]
  · rw [poolOver_stop, AddressRange.wholePages_end whole]

theorem create_within {range : AddressRange} {memory : Memory}
    (present : 0 < (create range memory).1.total) :
    (create range memory).1.bitmaps.Within range.span ∧
      (create range memory).1.span.Within range.span := by
  have whole : Span.Within ⟨(create range memory).1.bitmap, (create range memory).1.stop⟩
      range.span := by
    rw [(create_ends present).1, (create_ends present).2]
    exact ⟨range.base_le_firstPage, range.stopPage_le.1⟩
  obtain ⟨bitmaps, pages⟩ := (shape_create range memory).within present
  exact ⟨bitmaps.trans whole, pages.trans whole⟩

theorem read_create {range : AddressRange} {memory : Memory} {address : Nat}
    (present : 0 < (create range memory).1.total)
    (covers : (create range memory).1.bitmaps.Covers address) :
    (create range memory).2.read address = 0 := by
  obtain ⟨base, pages, _, _, pool, contents, _⟩ := create_poolOver range memory
  rw [pool] at present covers
  rw [contents, if_pos present]
  exact Memory.read_fill covers.1 covers.2

theorem records_create (range : AddressRange) (memory : Memory) :
    (create range memory).1.Records (create range memory).2 [] := by
  have unset {bitmap page : Nat} (inside : page < (create range memory).1.slots)
      (covers : (create range memory).1.bitmaps.Covers (bitmap + page / 8)) :
      (create range memory).2.testBit bitmap page = false := by
    rw [Memory.testBit, read_create (total_pos_of_slots inside) covers]
    simp
  have halves := (create range memory).1.halves_within
  constructor
  · simp
  · simp
  · intro page inside
    rw [used, unset inside (halves.1.covers (bits_covered inside).1)]
    simp
  · intro page inside
    rw [isHead, unset inside (halves.2.covers (bits_covered inside).2)]
    simp
  · rw [List.map_nil, List.sum_nil, Nat.add_zero, create_free]

theorem create_changes {range : AddressRange} {memory : Memory} {address : Nat}
    (changed : (create range memory).2.read address ≠ memory.read address) :
    (create range memory).1.bitmap = alignUp range.base.toNat Page.size ∧
      (create range memory).1.bitmaps.Covers address := by
  obtain ⟨base, pages, _, _, pool, contents, _⟩ := create_poolOver range memory
  rw [contents, ← pool] at changed
  split at changed
  · rename_i present
    refine ⟨?_, ?_⟩
    · rw [(create_ends present).1, range.bytes_firstPage]
    · rw [Memory.fill_eq_writeBytes] at changed
      by_contra outside
      refine changed (Memory.read_writeBytes_outside _ _ _ _ ?_)
      rw [pool] at outside ⊢
      simp only [bitmaps, Span.Covers, poolOver, List.length_replicate] at outside ⊢
      omega
  · exact absurd rfl changed

def poolOver? (base pages : Nat) : Option PagePool := do
  let words := pages ⌈/⌉ 64
  let both ← word? (2 * words)
  let bytes ← word? (both * 8)
  let bookkeeping ← word? (Page.spanning bytes)
  let reserved ← word? (Page.bytes (min bookkeeping pages))
  let usable := pages - bookkeeping
  let size ← word? (Page.bytes usable)
  let first ← word? (base + reserved)
  let _stop ← word? (first + size)
  some { bitmap := base, words, first, total := size / Page.size, free := usable }

/-- The pool over a range as it is computed in words, given up where a sum or a product leaves the
word. The difference of addresses stands behind a comparison, that of page counts ends at zero. -/
def create? (range : AddressRange) : Option PagePool :=
  let stop := (range.end?.map fun stop => stop.toNat / Page.size * Page.size).getD
    (UInt64.size - Page.size)
  match alignUp? range.base (UInt64.ofNat Page.size) with
  | some base =>
      poolOver? base.toNat (if base.toNat < stop then (stop - base.toNat) / Page.size else 0)
  | none => poolOver? range.base.toNat 0

theorem poolOver?_eq {base pages : Nat} (bounded : base + Page.bytes pages < UInt64.size) :
    poolOver? base pages = some (poolOver base pages) := by
  have words : pages ⌈/⌉ 64 = (pages + 63) / 64 := Nat.ceilDiv_eq_add_pred_div pages 64
  unfold poolOver? poolOver
  rw [words]
  -- Two bits a page are less than the page, so the sizes of the bitmaps fit.
  have room : base + pages * 4096 < 18446744073709551616 := bounded
  have bytes : 2 * ((pages + 63) / 64) * 8 = 16 * ((pages + 63) / 64) := by omega
  have few := Page.spanning_le (16 * ((pages + 63) / 64))
  dsimp only
  rw [word?_bind (by omega), bytes, word?_bind (by omega), word?_bind (by omega)]
  generalize Page.spanning (16 * ((pages + 63) / 64)) = bookkeeping
  have kept : pages - bookkeeping = pages - min bookkeeping pages := by omega
  have parts : Page.bytes (min bookkeeping pages) + Page.bytes (pages - bookkeeping) =
      pages * 4096 := by
    rw [Page.bytes, Page.bytes, ← Nat.add_mul, kept, Nat.add_sub_cancel' (Nat.min_le_right _ _)]
    rfl
  have whole : Page.bytes (pages - bookkeeping) / Page.size = pages - bookkeeping :=
    Nat.mul_div_cancel _ (by decide)
  rw [word?_bind (by omega), word?_bind (by omega), word?_bind (by omega), word?_bind (by omega),
    whole, kept]

theorem create?_eq (range : AddressRange) (memory : Memory) :
    create? range = some (create range memory).1 := by
  have bounded := range.wholePages_bounded
  rw [create_eq]
  unfold create?
  rw [range.bytes_stopPage]
  by_cases whole : range.base.toNat + (Page.size - 1) < UInt64.size
  · have base := AddressRange.alignedBase_of_whole whole
    have rounded : alignUp? range.base (UInt64.ofNat Page.size) =
        some (UInt64.ofNat range.alignedBase) := by
      rw [base, range.bytes_firstPage]
      exact if_pos whole
    have word : (UInt64.ofNat range.alignedBase).toNat = range.alignedBase :=
      UInt64.toNat_ofNat_of_lt' (by omega)
    have pages : (if range.alignedBase < Page.bytes range.stopPage then
        (Page.bytes range.stopPage - range.alignedBase) / Page.size else 0) =
        range.wholePages := by
      rw [base, ← range.bytes_wholePages]
      split
      · exact Nat.mul_div_cancel _ (by decide)
      · rename_i empty
        rw [AddressRange.wholePages]
        simp only [Page.bytes, Page.size] at empty
        omega
    rw [rounded]
    simp only [word, pages]
    exact poolOver?_eq bounded
  · have beyond : alignUp? range.base (UInt64.ofNat Page.size) = none := if_neg whole
    have base : range.alignedBase = range.base.toNat := if_neg whole
    rw [beyond, base, AddressRange.wholePages_beyond (Nat.le_of_not_lt whole)]
    exact poolOver?_eq range.base.toNat_lt_size

end PagePool

/-- A new pool grants the whole pages of its range but those kept for its bitmaps, and nothing that is
computed on the way leaves a word. If there are any, the bitmaps are clear, have a bit for each of
them and lie in the range, and behind them the pages go on to the last whole one of the range. -/
theorem new_pool_layout (range : AddressRange) (memory : Memory) :
    let pages := range.wholePages
    let pool := (PagePool.create range memory).1
    let later := (PagePool.create range memory).2
    PagePool.create? range = some pool ∧
    pool.total = pages - min pages ((16 * (pages ⌈/⌉ 64)) ⌈/⌉ Page.size) ∧
    pool.free = pool.total ∧ pool.range.size.toNat = Page.bytes pool.total ∧
    (0 < pool.total →
      (∀ address, pool.bitmaps.Covers address → later.read address = 0) ∧
      (∀ page < pool.total,
        Span.Covers ⟨pool.bitmap, pool.heads⟩ (pool.bitmap + page / 8) ∧
        Span.Covers ⟨pool.heads, pool.bitmaps.stop⟩ (pool.heads + page / 8)) ∧
      pool.bitmaps.Within range.span ∧ pool.bitmaps.Apart pool.range.span ∧
      pool.range.span.Within range.span ∧ Page.size ∣ pool.range.base.toNat ∧
      pool.range.span.stop = Page.bytes range.stopPage) := by
  intro pages pool later
  have shape : pool.Shape := PagePool.shape_create range memory
  refine ⟨PagePool.create?_eq range memory, PagePool.create_total range memory,
    PagePool.create_free range memory, shape.range_size, fun present => ?_⟩
  have slots (page : Nat) (inside : page < pool.total) : page < pool.slots :=
    Nat.lt_of_lt_of_le inside shape.total_le_slots
  obtain ⟨inFront, within⟩ := PagePool.create_within present
  rw [shape.range_span, shape.range_eq.1]
  exact ⟨fun _ => PagePool.read_create present,
    fun page inside => PagePool.bits_covered (slots page inside),
    inFront, Or.inl (shape.room present), within, Nat.dvd_of_mod_eq_zero (shape.aligned present),
    (PagePool.create_ends present).2⟩

/-- The last page of the address space is left out, also where a range goes on behind it. -/
example : (PagePool.create ⟨0xFFFFFFFFFFFFC000, 0x8000⟩ Memory.zeroed).1.range =
    ⟨0xFFFFFFFFFFFFD000, 0x2000⟩ := by
  decide

end PartitionBoot
