import Mathlib.Order.Bounds.Basic
import PartitionBoot.Proofs.Heap.PageHistory
import PartitionBoot.Proofs.Heap.PageSearch

/-!
Which free pages a request gets. The scan that passes over full words comes to the same as trying
all places from the top down, whatever the bitmap. Where the bitmap records grants, the count of
free pages is never below what a window takes, so a request is refused exactly where no window is
free and else gets the highest one.
-/

namespace PartitionBoot

namespace PagePool

def windows (pool : PagePool) (free : Nat → Prop) (pages : Nat) : Set Nat :=
  {place | place + pages ≤ pool.total ∧
    ∀ page, place ≤ page → page < place + pages → free page}

def Unused (pool : PagePool) (memory : Memory) (page : Nat) : Prop :=
  pool.used memory page = false

def Ungranted (pool : PagePool) (grants : List Grant) (page : Nat) : Prop :=
  ∀ grant ∈ grants, ¬ grant.Covers (pool.address page)

/-- The highest place below a bound from which on pages in a row are unused. All places are tried,
from the top down. -/
def highestWindow? (pool : PagePool) (memory : Memory) (pages : Nat) : Nat → Option Nat
  | 0 => none
  | place + 1 =>
      if place + pages ≤ pool.total ∧ ∀ page < pages, pool.used memory (place + page) = false then
        some place
      else pool.highestWindow? memory pages place

variable {pool : PagePool} {memory : Memory} {grants : List Grant} {pages : Nat}

theorem mem_windows_unused {place : Nat} :
    place ∈ pool.windows (pool.Unused memory) pages ↔
      place + pages ≤ pool.total ∧ ∀ page < pages, pool.used memory (place + page) = false := by
  constructor
  · rintro ⟨inside, unused⟩
    exact ⟨inside, fun page bound => unused _ (Nat.le_add_right _ _) (by omega)⟩
  · rintro ⟨inside, unused⟩
    refine ⟨inside, ?_⟩
    intro page lower upper
    have free := unused (page - place) (by omega)
    rwa [show place + (page - place) = page by omega] at free

theorem highestWindow?_eq_some_iff {bound index : Nat} :
    pool.highestWindow? memory pages bound = some index ↔
      IsGreatest {place ∈ pool.windows (pool.Unused memory) pages | place < bound} index := by
  induction bound with
  | zero =>
      constructor
      · intro found
        cases found
      · intro greatest
        exact absurd greatest.1.2 (Nat.not_lt_zero _)
  | succ place ih =>
      rw [highestWindow?]
      by_cases here : place ∈ pool.windows (pool.Unused memory) pages
      · have top : IsGreatest {other ∈ pool.windows (pool.Unused memory) pages |
            other < place + 1} place :=
          ⟨⟨here, Nat.lt_succ_self _⟩, fun _ other => Nat.le_of_lt_succ other.2⟩
        rw [if_pos (mem_windows_unused.mp here), Option.some.injEq]
        constructor
        · rintro rfl
          exact top
        · exact fun greatest => top.unique greatest
      · -- A place that is no window leaves the windows below the bound as they were.
        have same : {other ∈ pool.windows (pool.Unused memory) pages | other < place + 1} =
            {other ∈ pool.windows (pool.Unused memory) pages | other < place} := by
          ext other
          constructor
          · rintro ⟨member, below⟩
            refine ⟨member, Nat.lt_of_le_of_ne (Nat.le_of_lt_succ below) ?_⟩
            rintro rfl
            exact here member
          · exact fun ⟨member, below⟩ => ⟨member, Nat.lt_succ_of_lt below⟩
        rw [if_neg fun window => here (mem_windows_unused.mpr window), same]
        exact ih

theorem scan_eq_some_iff (positive : 0 < pages) {index : Nat} :
    pool.scan memory pages 0 pool.total = some index ↔
      IsGreatest (pool.windows (pool.Unused memory) pages) index := by
  have found_window {place : Nat} (found : pool.scan memory pages 0 pool.total = some place) :
      place ∈ pool.windows (pool.Unused memory) pages :=
    scan_free found positive fun _ lower upper => by omega
  constructor
  · intro found
    refine ⟨found_window found, ?_⟩
    rintro other ⟨inside, unused⟩
    obtain ⟨page, above, again⟩ := scan_reaches positive inside unused
    rw [found, Option.some.injEq] at again
    omega
  · rintro ⟨⟨inside, unused⟩, highest⟩
    obtain ⟨page, above, found⟩ := scan_reaches positive inside unused
    rw [found, Nat.le_antisymm (highest (found_window found)) above]

/-- Passing over full words neither misses nor misplaces a window, for any bitmap and any size. -/
theorem scan_eq_highestWindow? (positive : 0 < pages) :
    pool.scan memory pages 0 pool.total = pool.highestWindow? memory pages pool.total := by
  have below : {place ∈ pool.windows (pool.Unused memory) pages | place < pool.total} =
      pool.windows (pool.Unused memory) pages := by
    ext place
    refine and_iff_left_of_imp ?_
    rintro ⟨inside, _⟩
    omega
  ext index
  rw [scan_eq_some_iff positive, highestWindow?_eq_some_iff, below]

namespace Records

theorem windows_eq (records : pool.Records memory grants) (shape : pool.Shape) :
    pool.windows (pool.Unused memory) pages = pool.windows (pool.Ungranted grants) pages := by
  have slots := shape.total_le_slots
  have free {page : Nat} (inside : page < pool.total) :
      pool.Unused memory page ↔ pool.Ungranted grants page := by
    rw [Unused, Ungranted, ← Bool.not_eq_true, records.used page (by omega)]
    simp only [not_exists, not_and]
  ext place
  refine and_congr_right fun inside => ?_
  exact forall_congr' fun page => forall₂_congr fun _ _ => free (by omega)

theorem window_le_free (records : pool.Records memory grants) (shape : pool.Shape)
    (positive : 0 < pages) {place : Nat}
    (window : place ∈ pool.windows (pool.Unused memory) pages) : pages ≤ pool.free := by
  obtain ⟨inside, unused⟩ := window
  have placed : ∀ grant ∈ ⟨pool.address place, pages⟩ :: grants, pool.Places grant := by
    intro grant member
    rcases List.mem_cons.mp member with rfl | old
    · exact ⟨place, rfl, positive, inside⟩
    · exact records.placed grant old
  have apart : (⟨pool.address place, pages⟩ :: grants).Pairwise Grant.Apart :=
    List.pairwise_cons.mpr
      ⟨fun _ member => records.unused_apart shape positive inside unused member,
      records.apart⟩
  have counted := sum_counts_le placed apart
  have free := records.free
  simp only [List.map_cons, List.sum_cons] at counted
  omega

theorem findFree_eq_some_iff (records : pool.Records memory grants) (shape : pool.Shape)
    (positive : 0 < pages) {index : Nat} :
    pool.findFree memory pages = some index ↔
      IsGreatest (pool.windows (pool.Ungranted grants) pages) index := by
  rw [← records.windows_eq shape, findFree]
  split
  · rename_i short
    constructor
    · intro found
      cases found
    · intro greatest
      have enough := records.window_le_free shape positive greatest.1
      omega
  · exact scan_eq_some_iff positive

theorem findFree_eq_none_iff (records : pool.Records memory grants) (shape : pool.Shape)
    (positive : 0 < pages) :
    pool.findFree memory pages = none ↔ pool.windows (pool.Ungranted grants) pages = ∅ := by
  rw [← records.windows_eq shape]
  constructor
  · intro missed
    refine Set.eq_empty_iff_forall_notMem.mpr ?_
    intro place window
    exact findFree_ne_none positive (records.window_le_free shape positive window) window.1
      window.2 missed
  · intro empty
    by_contra found
    obtain ⟨index, found⟩ := Option.ne_none_iff_exists'.mp found
    have greatest := (records.findFree_eq_some_iff shape positive).mp found
    rw [← records.windows_eq shape, empty] at greatest
    exact greatest.1

end Records

end PagePool

variable {range : AddressRange} {memory : Memory} {past : PageHistory} {heap : Heap}

/-- A request for pages gets the highest window of free pages, and it is refused, without a change,
only where there is none. The scan that finds it agrees with trying all places from the top down,
for every bitmap and every size of the pool. -/
theorem request_gets_highest_window (run : PageRun range memory past heap) {pages : UInt64}
    (positive : 0 < pages) :
    let windows := heap.pages.windows (heap.pages.Ungranted past.outstanding) pages.toNat
    ((∃ index, IsGreatest windows index ∧
        ((PageCall.allocate pages).step.outcome heap).1 =
          .ok (some (heap.pages.range.base.toNat + 4096 * index))) ∨
      windows = ∅ ∧ (PageCall.allocate pages).step.outcome heap = (.ok none, heap)) ∧
    ∀ (pool : PagePool) (bits : Memory) (wanted : Nat), 0 < wanted →
      pool.scan bits wanted 0 pool.total = pool.highestWindow? bits wanted pool.total := by
  have tracks := run.tracks
  have asked : 0 < pages.toNat := positive
  refine ⟨?_, fun pool bits wanted => PagePool.scan_eq_highestWindow?⟩
  rw [PageCall.step, Heap.outcome_allocatePages asked]
  cases found : heap.pages.findFree heap.memory pages.toNat with
  | none => exact Or.inr ⟨(tracks.records.findFree_eq_none_iff tracks.shape asked).mp found, rfl⟩
  | some index =>
      refine Or.inl ⟨index, (tracks.records.findFree_eq_some_iff tracks.shape asked).mp found, ?_⟩
      rw [tracks.shape.range_eq.1, ← PagePool.address_eq]

/-- Two free pages above a full word are too few for three, so the scan passes over the word and
goes on below it. -/
theorem request_passes_over_full_word :
    let past : PageHistory := [(.free 0x82000 2, none), (.allocate 64, some 0x42000),
      (.allocate 2, some 0x82000)]
    ∃ heap, PageRun ⟨0x1000, 0x83000⟩ Memory.zeroed past heap ∧
      IsGreatest (heap.pages.windows (heap.pages.Ungranted past.outstanding) 3) 61 ∧
      ((PageCall.allocate 3).step.outcome heap).1 = .ok (some 0x3F000) := by
  intro past
  obtain ⟨heap, run, answer, base⟩ : ∃ heap, PageRun ⟨0x1000, 0x83000⟩ Memory.zeroed past heap ∧
      ((PageCall.allocate 3).step.outcome heap).1 = .ok (some 0x3F000) ∧
      heap.pages.range.base = 0x2000 :=
    ⟨_, .call (.call (.call .start (by decide +kernel)) (by decide +kernel)) (by decide +kernel),
      by decide +kernel, by decide +kernel⟩
  refine ⟨heap, run, ?_, answer⟩
  obtain ⟨index, greatest, found⟩ | ⟨_, refused⟩ :=
    (request_gets_highest_window run (show (0 : UInt64) < 3 by decide)).1
  · rw [answer, base, Except.ok.injEq, Option.some.injEq] at found
    change 0x3F000 = 0x2000 + 4096 * index at found
    rw [show index = 61 by omega] at greatest
    exact greatest
  · rw [refused] at answer
    cases answer

end PartitionBoot
