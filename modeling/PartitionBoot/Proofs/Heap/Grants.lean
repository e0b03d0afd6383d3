import Mathlib.Algebra.Order.Ring.Nat
import Mathlib.Data.List.Pairwise
import PartitionBoot.Proofs.Memory

/-!
What the two bitmaps of a page pool say. `Records` ties them to a list of grants: a page is marked
as used when a grant covers it and as a head when a grant starts there. A search for free pages, a
grant and its return are each described by what they do to that list.
-/

namespace PartitionBoot

structure Grant where
  base : Nat
  count : Nat
deriving DecidableEq

namespace Grant

def stop (grant : Grant) : Nat := grant.base + Page.bytes grant.count

def Covers (grant : Grant) (address : Nat) : Prop :=
  grant.base ≤ address ∧ address < grant.stop

def Apart (left right : Grant) : Prop := left.stop ≤ right.base ∨ right.stop ≤ left.base

instance : Std.Symm Apart := ⟨fun _ _ => Or.symm⟩

end Grant

namespace PagePool

/-- The bits of each bitmap; a pool without pages keeps none. -/
def slots (pool : PagePool) : Nat := if pool.total = 0 then 0 else 64 * pool.words

/-- The bitmaps hold a bit for each page and end before the first page, and the pages lie inside
the address space. -/
structure Shape (pool : PagePool) : Prop where
  covered : pool.total ≤ 64 * pool.words
  room : 0 < pool.total → pool.bitmap + 16 * pool.words ≤ pool.first
  aligned : 0 < pool.total → pool.first % Page.size = 0
  bounded : pool.stop < UInt64.size

def Places (pool : PagePool) (grant : Grant) : Prop :=
  ∃ index, grant.base = pool.address index ∧ 0 < grant.count ∧ index + grant.count ≤ pool.total

/-- The bitmaps in memory and the count of free pages stand for a list of grants. -/
structure Records (pool : PagePool) (memory : Memory) (grants : List Grant) : Prop where
  placed : ∀ grant ∈ grants, pool.Places grant
  apart : grants.Pairwise Grant.Apart
  used : ∀ page, page < pool.slots →
    (pool.used memory page = true ↔ ∃ grant ∈ grants, grant.Covers (pool.address page))
  heads : ∀ page, page < pool.slots →
    (pool.isHead memory page = true ↔ ∃ grant ∈ grants, grant.base = pool.address page)
  free : pool.free + (grants.map (·.count)).sum = pool.total

theorem address_eq (pool : PagePool) (index : Nat) :
    pool.address index = pool.first + 4096 * index := by
  simp only [address, Page.bytes, Page.size]
  omega

theorem address_inj {pool : PagePool} {left right : Nat}
    (same : pool.address left = pool.address right) : left = right := by
  simp only [address_eq] at same
  omega

theorem covers_address (pool : PagePool) (index count page : Nat) :
    Grant.Covers ⟨pool.address index, count⟩ (pool.address page) ↔
      index ≤ page ∧ page < index + count := by
  simp only [Grant.Covers, Grant.stop, address_eq, Page.bytes, Page.size]
  omega

theorem apart_address (pool : PagePool) (index count other size : Nat) :
    Grant.Apart ⟨pool.address index, count⟩ ⟨pool.address other, size⟩ ↔
      index + count ≤ other ∨ other + size ≤ index := by
  simp only [Grant.Apart, Grant.stop, address_eq, Page.bytes, Page.size]
  omega

theorem Shape.total_le_slots {pool : PagePool} (shape : pool.Shape) :
    pool.total ≤ pool.slots := by
  have covered := shape.covered
  simp only [slots]
  split <;> omega

theorem Shape.range_eq {pool : PagePool} (shape : pool.Shape) :
    pool.range.base.toNat = pool.first ∧
      pool.range.base.toNat + pool.range.size.toNat = pool.stop := by
  have bounded := shape.bounded
  have limit : UInt64.size = 2 ^ 64 := rfl
  simp only [stop, address] at bounded ⊢
  simp only [range, UInt64.toNat_ofNat']
  rw [Nat.mod_eq_of_lt (by omega), Nat.mod_eq_of_lt (by omega)]
  exact ⟨rfl, rfl⟩

theorem total_pos_of_slots {pool : PagePool} {page : Nat} (inside : page < pool.slots) :
    0 < pool.total := by
  simp only [slots] at inside
  split at inside <;> omega

theorem slots_le {pool : PagePool} : pool.slots ≤ 64 * pool.words := by
  simp only [slots]
  split <;> omega

/-! Marking and unmarking pages. -/

def stamp (pool : PagePool) (memory : Memory) (index pages : Nat) (value : Bool) : Memory :=
  (memory.setBit pool.heads index value).setBits pool.bitmap index value pages

theorem used_stamp {pool : PagePool} {memory : Memory} {index pages page : Nat} {value : Bool}
    (inside : page < 64 * pool.words) :
    pool.used (pool.stamp memory index pages value) page =
      if index ≤ page ∧ page < index + pages then value else pool.used memory page := by
  simp only [used, stamp, Memory.testBit_setBits]
  split
  · rfl
  · apply Memory.testBit_write_other
    simp only [heads]
    omega

theorem isHead_stamp {pool : PagePool} {memory : Memory} {index pages page : Nat} {value : Bool}
    (fits : index + pages ≤ 64 * pool.words) :
    pool.isHead (pool.stamp memory index pages value) page =
      if index = page then value else pool.isHead memory page := by
  have kept : pool.isHead (pool.stamp memory index pages value) page =
      (memory.setBit pool.heads index value).testBit pool.heads page := by
    simp only [isHead, stamp, Memory.testBit]
    rw [Memory.read_setBits_outside]
    intro bit lower upper
    simp only [heads]
    omega
  rw [kept, Memory.testBit_setBit]
  rfl

theorem read_stamp_outside {pool : PagePool} {memory : Memory} {index pages address : Nat}
    {value : Bool} (fits : index + pages ≤ 64 * pool.words) (positive : 0 < pages)
    (outside : address < pool.bitmap ∨ pool.bitmap + 16 * pool.words ≤ address) :
    (pool.stamp memory index pages value).read address = memory.read address := by
  rw [stamp, Memory.read_setBits_outside, Memory.read_setBit_other]
  · simp only [heads]
    omega
  · intro bit lower upper
    omega

/-! Searching for free pages. -/

theorem scan_free {pool : PagePool} {memory : Memory} {wanted run index page : Nat}
    (found : pool.scan memory wanted run index = some page) (short : run < wanted)
    (seen : ∀ other, index ≤ other → other < index + run → pool.used memory other = false) :
    page + wanted ≤ index + run ∧
      ∀ other, page ≤ other → other < page + wanted → pool.used memory other = false := by
  fun_induction scan pool memory wanted run index with
  | case1 => cases found
  | case2 run index positive below full ih =>
      have bounds := ih found (by omega) (by omega)
      refine ⟨by omega, bounds.2⟩
  | case3 run index positive below notFull taken ih =>
      have bounds := ih found (by omega) (by omega)
      refine ⟨by omega, bounds.2⟩
  | case4 run index positive below notFull untaken done =>
      simp only [Option.some.injEq] at found
      subst page
      refine ⟨by omega, ?_⟩
      intro other lower upper
      by_cases first : other = below
      · subst other
        simpa using untaken
      · exact seen other (by omega) (by omega)
  | case5 run index positive below notFull untaken undone ih =>
      have bounds := ih found (by omega) (by
        intro other lower upper
        by_cases first : other = below
        · subst other
          simpa using untaken
        · exact seen other (by omega) (by omega))
      refine ⟨by omega, bounds.2⟩

structure Vacant (pool : PagePool) (memory : Memory) (index count : Nat) : Prop where
  positive : 0 < count
  inside : index + count ≤ pool.total
  enough : count ≤ pool.free
  unused : ∀ page, index ≤ page → page < index + count → pool.used memory page = false

theorem findFree_vacant {pool : PagePool} {memory : Memory} {pages index : Nat}
    (found : pool.findFree memory pages = some index) (positive : 0 < pages) :
    pool.Vacant memory index pages := by
  simp only [findFree] at found
  split at found
  · cases found
  · have bounds := scan_free found positive (by omega)
    exact ⟨positive, by omega, by omega, bounds.2⟩

namespace Records

variable {pool : PagePool} {memory : Memory} {grants : List Grant}

theorem positive (records : pool.Records memory grants) {grant : Grant}
    (member : grant ∈ grants) : 0 < grant.count := by
  obtain ⟨_, _, positive, _⟩ := records.placed grant member
  exact positive

theorem apart_of_ne (records : pool.Records memory grants) {left right : Grant}
    (first : left ∈ grants) (second : right ∈ grants) (differ : left ≠ right) :
    left.Apart right :=
  records.apart.forall first second differ

theorem eq_of_covers (records : pool.Records memory grants) {left right : Grant}
    (first : left ∈ grants) (second : right ∈ grants) {address : Nat}
    (inLeft : left.Covers address) (inRight : right.Covers address) : left = right := by
  by_cases same : left = right
  · exact same
  · have apart := records.apart_of_ne first second same
    simp only [Grant.Apart, Grant.Covers] at apart inLeft inRight
    omega

theorem nodup (records : pool.Records memory grants) : grants.Nodup := by
  refine records.apart.imp_of_mem ?_
  intro left right member _ apart same
  subst same
  have positive := records.positive member
  simp only [Grant.Apart, Grant.stop, Page.bytes, Page.size] at apart
  omega

theorem perm {others : List Grant} (records : pool.Records memory grants)
    (permuted : grants.Perm others) : pool.Records memory others where
  placed grant member := records.placed grant (permuted.mem_iff.mpr member)
  apart := (permuted.pairwise_iff Or.symm).mp records.apart
  used page bound := by
    rw [records.used page bound]
    simp only [permuted.mem_iff]
  heads page bound := by
    rw [records.heads page bound]
    simp only [permuted.mem_iff]
  free := by
    rw [← (permuted.map _).sum_nat]
    exact records.free

theorem congr {other : Memory} (records : pool.Records memory grants)
    (agrees : other.Agrees memory pool.bitmap (pool.bitmap + 16 * pool.words)) :
    pool.Records other grants where
  placed := records.placed
  apart := records.apart
  used page bound := by
    have slots := pool.slots_le
    rw [← records.used page bound, PagePool.used, PagePool.used, Memory.testBit, Memory.testBit,
      agrees _ (by omega) (by omega)]
  heads page bound := by
    have slots := pool.slots_le
    have place : pool.heads = pool.bitmap + 8 * pool.words := rfl
    rw [← records.heads page bound, isHead, isHead, Memory.testBit, Memory.testBit,
      agrees _ (by omega) (by omega)]
  free := records.free

theorem not_covers (records : pool.Records memory grants) (shape : pool.Shape) {page : Nat}
    (bound : page < pool.total) (unused : pool.used memory page = false) {grant : Grant}
    (member : grant ∈ grants) : ¬ grant.Covers (pool.address page) := by
  intro covers
  have slots := shape.total_le_slots
  have set := (records.used page (by omega)).mpr ⟨grant, member, covers⟩
  simp [set] at unused

theorem unused_apart (records : pool.Records memory grants) (shape : pool.Shape)
    {index count : Nat} (positive : 0 < count) (inside : index + count ≤ pool.total)
    (unused : ∀ page, index ≤ page → page < index + count → pool.used memory page = false)
    {grant : Grant} (member : grant ∈ grants) :
    Grant.Apart ⟨pool.address index, count⟩ grant := by
  obtain ⟨other, place, size, bound⟩ := records.placed grant member
  obtain ⟨base, pages⟩ := grant
  change base = pool.address other at place
  subst base
  rw [apart_address]
  -- Were the two to overlap, the later first page of the two would be in both.
  by_cases before : other ≤ index
  · have free := records.not_covers shape (by omega) (unused index (by omega) (by omega)) member
    rw [covers_address] at free
    omega
  · by_cases within : other < index + count
    · have free := records.not_covers shape (by omega) (unused other (by omega) within) member
      rw [covers_address] at free
      change 0 < pages at size
      omega
    · omega

theorem mark (records : pool.Records memory grants) (shape : pool.Shape) {index count : Nat}
    (vacant : pool.Vacant memory index count) :
    (pool.mark memory index count).1.Records (pool.mark memory index count).2
      (⟨pool.address index, count⟩ :: grants) := by
  have positive := vacant.positive
  have inside := vacant.inside
  have enough := vacant.enough
  have slots := pool.slots_le
  have covered := shape.covered
  constructor
  · intro grant member
    rcases List.mem_cons.mp member with rfl | old
    · exact ⟨index, rfl, positive, inside⟩
    · exact records.placed grant old
  · exact List.pairwise_cons.mpr ⟨fun _ member =>
      records.unused_apart shape positive inside vacant.unused member, records.apart⟩
  · intro page bound
    change page < pool.slots at bound
    change pool.used (pool.stamp memory index count true) page = true ↔
      ∃ grant ∈ (_ : List Grant), grant.Covers (pool.address page)
    simp only [used_stamp (show page < 64 * pool.words by omega), List.mem_cons,
      exists_eq_or_imp, covers_address]
    split
    · rename_i granted
      simp [granted]
    · rename_i outside
      simp only [outside, false_or, records.used page bound]
  · intro page bound
    change page < pool.slots at bound
    change pool.isHead (pool.stamp memory index count true) page = true ↔
      ∃ grant ∈ (_ : List Grant), grant.base = pool.address page
    simp only [isHead_stamp (show index + count ≤ 64 * pool.words by omega), List.mem_cons,
      exists_eq_or_imp]
    split
    · rename_i same
      simp [same]
    · rename_i differ
      have other : pool.address index ≠ pool.address page := fun same => differ (address_inj same)
      simp [other, records.heads page bound]
  · have free := records.free
    change pool.free - count + _ = pool.total
    simp only [List.map_cons, List.sum_cons]
    omega

theorem unmark (records : pool.Records memory grants) (shape : pool.Shape) {index count : Nat}
    (member : ⟨pool.address index, count⟩ ∈ grants) :
    (pool.unmark memory index count).1.Records (pool.unmark memory index count).2
      (grants.erase ⟨pool.address index, count⟩) := by
  have slots := pool.slots_le
  have covered := shape.covered
  have nodup := records.nodup
  obtain ⟨place, samePlace, positive, inside⟩ := records.placed _ member
  have sameIndex : index = place := address_inj samePlace
  subst place
  change 0 < count at positive
  change index + count ≤ pool.total at inside
  constructor
  · exact fun grant left => records.placed grant (List.mem_of_mem_erase left)
  · exact records.apart.sublist List.erase_sublist
  · intro page bound
    change page < pool.slots at bound
    change pool.used (pool.stamp memory index count false) page = true ↔
      ∃ grant ∈ (_ : List Grant), grant.Covers (pool.address page)
    rw [used_stamp (by omega)]
    simp only [nodup.mem_erase_iff]
    split
    · rename_i released
      have mine := (covers_address pool index count page).mpr released
      constructor
      · intro impossible
        cases impossible
      · rintro ⟨grant, ⟨differ, left⟩, covers⟩
        exact absurd (records.eq_of_covers left member covers mine) differ
    · rename_i kept
      rw [records.used page bound]
      constructor
      · rintro ⟨grant, left, covers⟩
        refine ⟨grant, ⟨?_, left⟩, covers⟩
        rintro rfl
        exact kept ((covers_address pool index count page).mp covers)
      · rintro ⟨grant, ⟨_, left⟩, covers⟩
        exact ⟨grant, left, covers⟩
  · intro page bound
    change page < pool.slots at bound
    change pool.isHead (pool.stamp memory index count false) page = true ↔
      ∃ grant ∈ (_ : List Grant), grant.base = pool.address page
    rw [isHead_stamp (by omega)]
    simp only [nodup.mem_erase_iff]
    split
    · rename_i same
      subst page
      constructor
      · intro impossible
        cases impossible
      · rintro ⟨grant, ⟨differ, left⟩, base⟩
        have mine := (covers_address pool index count index).mpr ⟨by omega, by omega⟩
        have size := records.positive left
        refine absurd (records.eq_of_covers left member ⟨?_, ?_⟩ mine) differ
        · omega
        · simp only [Grant.stop, Page.bytes, Page.size]
          omega
    · rename_i different
      rw [records.heads page bound]
      constructor
      · rintro ⟨grant, left, base⟩
        refine ⟨grant, ⟨?_, left⟩, base⟩
        rintro rfl
        exact different (address_inj base)
      · rintro ⟨grant, ⟨_, left⟩, base⟩
        exact ⟨grant, left, base⟩
  · have free := records.free
    have sum := ((List.perm_cons_erase member).map (·.count)).sum_nat
    change pool.free + count + _ = pool.total
    simp only [List.map_cons, List.sum_cons] at sum
    omega

end Records

end PagePool

end PartitionBoot
