import PartitionBoot.Proofs.Heap.HighestWindow

/-!
Grants at an alignment of more than a page. The highest window is taken that has one alignment to
spare, and the pages from its first aligned address on become one grant. The rest of the window
stays free.
-/

namespace PartitionBoot

theorem alignUp_isLeast (offset : Nat) {alignment : Nat} (positive : 0 < alignment) :
    IsLeast {multiple | alignment ∣ multiple ∧ offset ≤ multiple} (alignUp offset alignment) := by
  refine ⟨⟨Nat.dvd_mul_left _ _, le_alignUp offset positive⟩, ?_⟩
  rintro _ ⟨⟨factor, rfl⟩, above⟩
  rw [alignUp_eq_ceilDiv_mul offset positive, Nat.mul_comm]
  exact Nat.mul_le_mul_left alignment ((ceilDiv_le_iff_le_mul positive).mpr above)

theorem Page.spanning_eq_div {alignment : Nat} (whole : Page.size ∣ alignment) :
    Page.spanning alignment = alignment / Page.size := by
  rw [Page.spanning, if_pos (Nat.mod_eq_zero_of_dvd whole), Nat.add_zero]

namespace Heap

variable {start heap : Heap} {grants : List Grant}

theorem granted_kept (shape : heap.pages.Shape) {index pages page : Nat}
    (fits : index + pages ≤ heap.pages.total) (inside : page < heap.pages.total)
    (positive : 0 < pages) (outside : ¬ (index ≤ page ∧ page < index + pages)) :
    (heap.granted index pages).pages.used (heap.granted index pages).memory page =
        heap.pages.used heap.memory page ∧
      (heap.granted index pages).pages.isHead (heap.granted index pages).memory page =
        heap.pages.isHead heap.memory page := by
  have covered := shape.covered
  have used : heap.pages.used (heap.pages.stamp heap.memory index pages true) page = _ :=
    PagePool.used_stamp (by omega)
  have head : heap.pages.isHead (heap.pages.stamp heap.memory index pages true) page = _ :=
    PagePool.isHead_stamp (by omega)
  rw [if_neg outside] at used
  rw [if_neg (by omega)] at head
  exact ⟨used, head⟩

theorem Tracks.granted_released (tracks : start.Tracks heap grants) {index pages : Nat}
    (vacant : heap.pages.Vacant heap.memory index pages) :
    ∃ last, (freePages (heap.pages.address index) pages).outcome (heap.granted index pages) =
      (.ok (), last) ∧ last.Same heap := by
  obtain ⟨last, freed, restored⟩ := (tracks.granted vacant).released List.mem_cons_self
  rw [List.erase_cons_head] at restored
  exact ⟨last, freed, restored.same tracks (List.Perm.refl _)⟩

end Heap

variable {range : AddressRange} {memory : Memory} {past : PageHistory} {heap : Heap}

/-- A request at an alignment of more than a page is refused, without a change, only where no window
of free pages has one alignment to spare. Else it gets the pages from the first aligned address of
the highest such window on. They lie in the window and become one grant, which can be given back,
and the bits of all other pages stay as they are. It never stops. -/
theorem aligned_request_gets_highest_window (run : PageRun range memory past heap)
    {pages alignment : UInt64} (positive : 0 < pages) (power : alignment.toNat.isPowerOfTwo)
    (large : Page.size < alignment.toNat)
    (fits : pages.toNat + alignment.toNat / Page.size < UInt64.size) :
    let pool := heap.pages
    let call := PageCall.allocateAligned pages alignment
    let windows := pool.windows (pool.Ungranted past.outstanding)
      (pages.toNat + alignment.toNat / Page.size)
    (windows = ∅ ∧ call.step.outcome heap = (.ok none, heap)) ∨
    ∃ index first later, IsGreatest windows index ∧
      call.step.outcome heap = (.ok (some (pool.address first)), later) ∧
      IsLeast {address | alignment.toNat ∣ address ∧ pool.address index ≤ address}
        (pool.address first) ∧
      index ≤ first ∧
      first + pages.toNat ≤ index + (pages.toNat + alignment.toNat / Page.size) ∧
      PageRun range memory ((call, some (pool.address first)) :: past) later ∧
      later.pages.Records later.memory (⟨pool.address first, pages.toNat⟩ :: past.outstanding) ∧
      (∀ page < pool.total, ¬ (first ≤ page ∧ page < first + pages.toNat) →
        later.pages.used later.memory page = pool.used heap.memory page ∧
        later.pages.isHead later.memory page = pool.isHead heap.memory page) ∧
      ∃ last, (Heap.freePages (pool.address first) pages.toNat).outcome later = (.ok (), last) ∧
        last.Same heap := by
  intro pool call windows
  have tracks := run.tracks
  have asked : 0 < pages.toNat := positive
  have shifted : 1 <<< alignment.toNat.log2 = alignment.toNat := by
    obtain ⟨exponent, power⟩ := power
    rw [power, Nat.log2_two_pow, Nat.one_shiftLeft]
  have spanning := Page.spanning_eq_div (Heap.page_dvd_alignment shifted large)
  have outcome := Heap.outcome_allocateAlignedPages tracks.shape shifted large asked
    (by rwa [spanning])
  rw [spanning] at outcome
  cases found : heap.pages.findFree heap.memory (pages.toNat + alignment.toNat / Page.size) with
  | none =>
      rw [found] at outcome
      exact Or.inl ⟨(tracks.records.findFree_eq_none_iff tracks.shape (by omega)).mp found, outcome⟩
  | some index =>
      have window := PagePool.findFree_vacant found (by omega)
      have inside := window.inside
      rw [← spanning] at window inside
      obtain ⟨place, lower, upper⟩ := Heap.aligned_within tracks.shape shifted large inside
      obtain ⟨_, vacant⟩ := Heap.vacant_aligned tracks.shape shifted large asked window
      simp only [found] at outcome
      generalize (alignUp (heap.pages.address index) alignment.toNat - heap.pages.first) /
        Page.size = first at outcome place lower upper vacant
      rw [← place] at outcome
      rw [spanning] at upper
      have least := alignUp_isLeast (heap.pages.address index)
        (Nat.lt_of_le_of_lt (Nat.zero_le _) large)
      rw [← place] at least
      have stepped : PageRun range memory ((call, some (pool.address first)) :: past)
          (call.step.outcome heap).2 := .call run (congrArg Prod.fst outcome)
      rw [show call.step.outcome heap = _ from outcome] at stepped
      exact Or.inr ⟨index, first, _,
        (tracks.records.findFree_eq_some_iff tracks.shape (by omega)).mp found, outcome, least,
        lower, upper, stepped, stepped.tracks.records,
        fun page bound outside =>
          Heap.granted_kept tracks.shape vacant.inside bound asked outside,
        tracks.granted_released vacant⟩

/-- Two pages at an alignment of sixteen, in a pool that goes on to the last page of the address
space, below a page that is granted. -/
theorem aligned_request_below_top :
    let past : PageHistory := [(.allocate 1, some 0xFFFFFFFFFFFFE000)]
    ∃ heap later, PageRun ⟨0xFFFFFFFFFFFD7000, 0x29000⟩ Memory.zeroed past heap ∧
      (PageCall.allocateAligned 2 0x10000).step.outcome heap =
        (.ok (some 0xFFFFFFFFFFFF0000), later) ∧
      later.pages.Records later.memory
        [⟨0xFFFFFFFFFFFF0000, 2⟩, ⟨0xFFFFFFFFFFFFE000, 1⟩] := by
  intro past
  obtain ⟨heap, run, answer⟩ : ∃ heap,
      PageRun ⟨0xFFFFFFFFFFFD7000, 0x29000⟩ Memory.zeroed past heap ∧
      ((PageCall.allocateAligned 2 0x10000).step.outcome heap).1 =
        .ok (some 0xFFFFFFFFFFFF0000) :=
    ⟨_, .call .start (by decide +kernel), by decide +kernel⟩
  obtain ⟨_, refused⟩ | ⟨index, first, later, _, granted, _, _, _, _, records, _⟩ :=
    aligned_request_gets_highest_window run (show (0 : UInt64) < 2 by decide)
      (show (0x10000 : UInt64).toNat.isPowerOfTwo from ⟨16, rfl⟩) (by decide) (by decide)
  · rw [refused] at answer
    cases answer
  · rw [granted, Except.ok.injEq, Option.some.injEq] at answer
    rw [answer] at granted records
    exact ⟨heap, later, run, granted, records⟩

end PartitionBoot
