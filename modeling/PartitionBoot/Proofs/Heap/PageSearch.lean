import Mathlib.Data.List.Nodup
import Mathlib.Data.List.Perm.Subperm
import PartitionBoot.Proofs.Heap.Grants

/-!
The search for free pages misses none. Where free pages in a row lie anywhere in a pool, the search
for that many pages finds some, and as long as the count of free pages is not zero, there is a free
page.
-/

namespace PartitionBoot

namespace PagePool

variable {pool : PagePool} {memory : Memory} {grants : List Grant}

theorem used_of_wordFull {word page : Nat} (full : memory.wordFull pool.bitmap word = true)
    (inWord : page / 64 = word) : pool.used memory page = true := by
  have ones : ∀ bit < 8, (255 : UInt8).toNat.testBit bit = true := by decide
  have offset : page / 8 - 8 * word < 8 := by omega
  have place : pool.bitmap + page / 8 = pool.bitmap + 8 * word + (page / 8 - 8 * word) := by omega
  rw [Memory.wordFull, List.all_eq_true] at full
  have byte := full (memory.read (pool.bitmap + page / 8)) (by
    rw [place, Memory.readBytes]
    exact List.mem_map.mpr ⟨_, List.mem_range.mpr offset, rfl⟩)
  rw [used, Memory.testBit, of_decide_eq_true byte]
  exact ones _ (Nat.mod_lt _ (by decide))

/-- A scan that has seen `run` free pages misses no window that ends with them or before: it finds
that one or a higher one. -/
theorem scan_reaches {wanted run index first : Nat} (short : run < wanted)
    (fits : first + wanted ≤ index + run)
    (unused : ∀ page, first ≤ page → page < first + wanted → pool.used memory page = false) :
    ∃ page, first ≤ page ∧ pool.scan memory wanted run index = some page := by
  -- A used page that lies below the index is above the window.
  have behind {page : Nat} (taken : pool.used memory page = true) (above : first ≤ page) :
      first + wanted ≤ page := by
    by_contra inside
    have free := unused page above (by omega)
    rw [taken] at free
    cases free
  fun_induction scan pool memory wanted run index with
  | case1 => omega
  | case2 run index positive page full ih =>
      simp only [Bool.and_eq_true, decide_eq_true_eq] at full
      have word {other : Nat} (lower : page - 63 ≤ other) (upper : other ≤ page) :
          first ≤ other → first + wanted ≤ other :=
        behind (used_of_wordFull full.2 (by omega))
      refine ih (by omega) ?_
      by_contra inside
      have last := word (Nat.sub_le _ _) (Nat.le_refl _) (by omega)
      have overlap := word (show page - 63 ≤ first + wanted - 1 by omega) (by omega) (by omega)
      omega
  | case3 run index positive page notFull taken ih =>
      exact ih (by omega) (behind taken (by omega))
  | case4 run index positive page notFull untaken done => exact ⟨page, by omega, rfl⟩
  | case5 run index positive page notFull untaken undone ih =>
      exact ih (by omega) (by omega)

theorem findFree_ne_none {pages first : Nat} (positive : 0 < pages) (enough : pages ≤ pool.free)
    (inside : first + pages ≤ pool.total)
    (unused : ∀ page, first ≤ page → page < first + pages → pool.used memory page = false) :
    pool.findFree memory pages ≠ none := by
  obtain ⟨page, _, found⟩ := scan_reaches positive inside unused
  rw [findFree, if_neg (Nat.not_lt_of_le enough), found]
  exact Option.some_ne_none page

def indices (pool : PagePool) (grant : Grant) : List Nat :=
  List.range' ((grant.base - pool.first) / Page.size) grant.count

theorem Places.mem_indices {grant : Grant} (places : pool.Places grant) {page : Nat} :
    page ∈ pool.indices grant ↔ grant.Covers (pool.address page) := by
  obtain ⟨index, base, _, _⟩ := places
  obtain ⟨_, count⟩ := grant
  change _ = pool.address index at base
  subst base
  have place : (pool.address index - pool.first) / Page.size = index := by
    simp only [address_eq, Page.size]
    omega
  rw [indices, place, covers_address]
  exact List.mem_range'_1

theorem sum_counts_le (placed : ∀ grant ∈ grants, pool.Places grant)
    (apart : grants.Pairwise Grant.Apart) : (grants.map (·.count)).sum ≤ pool.total := by
  have distinct : (grants.flatMap pool.indices).Nodup := by
    refine List.nodup_flatMap.mpr ⟨fun _ _ => List.nodup_range', ?_⟩
    refine apart.imp_of_mem ?_
    intro left right inLeft inRight away page first second
    have inFirst := (placed left inLeft).mem_indices.mp first
    have inSecond := (placed right inRight).mem_indices.mp second
    simp only [Grant.Apart, Grant.Covers] at away inFirst inSecond
    omega
  have inside : grants.flatMap pool.indices ⊆ List.range pool.total := by
    intro page member
    obtain ⟨grant, among, covered⟩ := List.mem_flatMap.mp member
    have covers := (placed grant among).mem_indices.mp covered
    obtain ⟨index, base, _, bound⟩ := placed grant among
    obtain ⟨first, count⟩ := grant
    change first = pool.address index at base
    subst base
    rw [covers_address] at covers
    exact List.mem_range.mpr (Nat.lt_of_lt_of_le covers.2 bound)
  have counted := (List.Nodup.subperm distinct inside).length_le
  simpa only [List.length_flatMap, indices, List.length_range', List.length_range] using counted

namespace Records

theorem exists_unused (records : pool.Records memory grants) (shape : pool.Shape)
    (available : 0 < pool.free) : ∃ page < pool.total, pool.used memory page = false := by
  by_contra none
  have slots := shape.total_le_slots
  have covered : List.range pool.total ⊆ grants.flatMap pool.indices := by
    intro page bound
    have inside := List.mem_range.mp bound
    have taken : pool.used memory page = true := by
      by_contra untaken
      exact none ⟨page, inside, Bool.not_eq_true _ ▸ untaken⟩
    obtain ⟨grant, member, covers⟩ := (records.used page (by omega)).mp taken
    exact List.mem_flatMap.mpr ⟨grant, member, (records.placed grant member).mem_indices.mpr covers⟩
  have counted := (List.Nodup.subperm List.nodup_range covered).length_le
  have free := records.free
  simp only [List.length_range, List.length_flatMap, indices, List.length_range'] at counted
  omega

theorem findFree_one (records : pool.Records memory grants) (shape : pool.Shape) :
    pool.findFree memory 1 = none ↔ pool.free = 0 := by
  constructor
  · intro missed
    by_contra available
    obtain ⟨page, inside, unused⟩ := records.exists_unused shape (Nat.pos_of_ne_zero available)
    refine findFree_ne_none Nat.one_pos (Nat.pos_of_ne_zero available) inside ?_ missed
    intro other lower upper
    rw [show other = page by omega]
    exact unused
  · intro empty
    rw [findFree, if_pos (by omega)]

end Records

end PagePool

end PartitionBoot
