import Mathlib.Algebra.BigOperators.Fin
import PartitionBoot.Proofs.Heap.PageSearch
import PartitionBoot.Proofs.Heap.StockRun

/-!
Where the pages of a heap are. They are free, held by clients, or carved into blocks; and as many
are carved up for a class as it took to serve the most blocks of that class that were ever live at
once. So a small request fails only where neither a block nor a page is free, and giving back all
buffers gives back all other pages.
-/

namespace PartitionBoot

def Buffer.ownPages : Buffer → Nat
  | pages _ count => count
  | pool _ bytes =>
      if BlockHeader.largestBlock < bytes + BlockHeader.bytes then
        Page.spanning (bytes + BlockHeader.bytes)
      else 0

namespace SizeClass

def perPage (sizeClass : SizeClass) : Nat := Page.size / sizeClass.blockSize

def pagesFor (sizeClass : SizeClass) (blocks : Nat) : Nat :=
  (blocks + (sizeClass.perPage - 1)) / sizeClass.perPage

def blocksAmong (sizeClass : SizeClass) (buffers : List Buffer) : Nat :=
  (buffers.filterMap (Buffer.block? sizeClass)).length

theorem blocksAmong_cons {sizeClass : SizeClass} {buffer : Buffer} {block : Nat}
    (small : buffer.block? sizeClass = some block) (live : List Buffer) :
    sizeClass.blocksAmong (buffer :: live) = sizeClass.blocksAmong live + 1 := by
  rw [blocksAmong, List.filterMap_cons_some small]
  rfl

theorem perPage_pos (sizeClass : SizeClass) : 0 < sizeClass.perPage := by
  revert sizeClass
  decide

theorem pagesFor_eq {sizeClass : SizeClass} {blocks pages : Nat}
    (room : blocks ≤ pages * sizeClass.perPage)
    (tight : pages * sizeClass.perPage < blocks + sizeClass.perPage) :
    sizeClass.pagesFor blocks = pages := by
  have positive := sizeClass.perPage_pos
  refine Nat.div_eq_of_lt_le ?_ ?_
  · omega
  · rw [Nat.succ_mul]
    omega

end SizeClass

/-- The most blocks of a class that were live at once. While a buffer is moved, its old and its new
block are both live. -/
def ServiceHistory.peak : ServiceHistory → SizeClass → Nat
  | [], _ => 0
  | (call, result) :: past, sizeClass =>
      max (ServiceHistory.peak past sizeClass)
        (sizeClass.blocksAmong ((call.handedOut? result).toList ++ ServiceHistory.live past))

namespace Stock

def pagesOf (stock : Stock) (sizeClass : SizeClass) : Nat :=
  stock.carved.countP fun page => page.2 = sizeClass

theorem length_blocks (stock : Stock) (sizeClass : SizeClass) :
    (stock.blocks sizeClass).length = stock.pagesOf sizeClass * sizeClass.perPage := by
  rw [blocks, pagesOf]
  induction stock.carved with
  | nil => simp
  | cons page rest ih =>
      rw [List.flatMap_cons, List.length_append, ih, List.countP_cons]
      by_cases same : page.2 = sizeClass
      · simp only [same, if_true, decide_true, SizeClass.pageBlocks, List.length_map,
          List.length_range, SizeClass.perPage]
        rw [Nat.succ_mul, Nat.add_comm]
      · simp [same]

theorem pagesOf_restocked (stock : Stock) (other sizeClass : SizeClass) (page : Nat) :
    (stock.restocked other page).pagesOf sizeClass =
      stock.pagesOf sizeClass + if other = sizeClass then 1 else 0 := by
  simp only [pagesOf, restocked, withChain_carved, List.countP_cons, decide_eq_true_eq]

theorem Issues.pagesOf_le {stock next : Stock} {buffer : Buffer}
    (issues : stock.Issues buffer next) (sizeClass : SizeClass) :
    stock.pagesOf sizeClass ≤ next.pagesOf sizeClass := by
  simp only [pagesOf]
  rcases issues.carved_cases with same | ⟨_, _, _, more⟩
  · rw [same]
  · rw [more]
    exact (List.sublist_cons_self _ _).countP_le

/-- The pages that are carved up for each class suffice for the most blocks that were ever live at
once, and with one page less they would not. -/
structure Peaks (stock : Stock) (peak : SizeClass → Nat) : Prop where
  live : ∀ sizeClass, sizeClass.blocksAmong stock.live ≤ peak sizeClass
  room : ∀ sizeClass, peak sizeClass ≤ stock.pagesOf sizeClass * sizeClass.perPage
  tight : ∀ sizeClass,
    stock.pagesOf sizeClass * sizeClass.perPage < peak sizeClass + sizeClass.perPage

theorem Peaks.pagesFor {stock : Stock} {peak : SizeClass → Nat} (peaks : stock.Peaks peak)
    (sizeClass : SizeClass) : sizeClass.pagesFor (peak sizeClass) = stock.pagesOf sizeClass :=
  SizeClass.pagesFor_eq (peaks.room sizeClass) (peaks.tight sizeClass)

theorem Returns.blocksAmong_le {stock next : Stock} {buffer : Buffer}
    (returns : stock.Returns buffer next) (sizeClass : SizeClass) :
    sizeClass.blocksAmong next.live ≤ sizeClass.blocksAmong stock.live := by
  have same := (returns.live.filterMap (Buffer.block? sizeClass)).length_eq
  rw [SizeClass.blocksAmong, SizeClass.blocksAmong, same]
  exact ((List.sublist_cons_self _ _).filterMap _).length_le

theorem Peaks.returned {stock next : Stock} {peak : SizeClass → Nat} {buffer : Buffer}
    (peaks : stock.Peaks peak) (returns : stock.Returns buffer next) : next.Peaks peak where
  live sizeClass := Nat.le_trans (returns.blocksAmong_le sizeClass) (peaks.live sizeClass)
  room sizeClass := by
    rw [pagesOf, returns.carved_eq]
    exact peaks.room sizeClass
  tight sizeClass := by
    rw [pagesOf, returns.carved_eq]
    exact peaks.tight sizeClass

end Stock

namespace Heap

variable {heap later : Heap} {stock next : Stock} {buffer : Buffer} {given : Option Buffer}
  {taken : Option Nat} {peak : SizeClass → Nat}

theorem Holds.length_stocked (holds : heap.Holds stock) (sizeClass : SizeClass) :
    (stock.chains sizeClass).length + sizeClass.blocksAmong stock.live =
      stock.pagesOf sizeClass * sizeClass.perPage := by
  have counted := (holds.stocked sizeClass).length_eq
  rw [List.length_append, Stock.length_blocks] at counted
  exact counted

/-- A page is carved up only when all blocks of its class are live, so that the new buffer takes
their number to a new peak. -/
theorem HandsOut.peaks (handsOut : heap.HandsOut stock buffer later next)
    (holds : heap.Holds stock) (peaks : stock.Peaks peak) :
    next.Peaks fun sizeClass =>
      max (peak sizeClass) (sizeClass.blocksAmong (buffer :: stock.live)) := by
  have live := handsOut.issues.live
  constructor
  · intro sizeClass
    rw [live]
    exact Nat.le_max_right _ _
  · intro sizeClass
    have counted := handsOut.holds.length_stocked sizeClass
    rw [live] at counted
    have old := peaks.room sizeClass
    have grown := Nat.mul_le_mul_right sizeClass.perPage (handsOut.issues.pagesOf_le sizeClass)
    exact Nat.max_le.mpr ⟨by omega, by omega⟩
  · intro sizeClass
    have old := peaks.tight sizeClass
    cases handsOut.issues with
    | whole _ => exact Nat.lt_of_lt_of_le old (Nat.add_le_add_right (Nat.le_max_left _ _) _)
    | listed _ _ => exact Nat.lt_of_lt_of_le old (Nat.add_le_add_right (Nat.le_max_left _ _) _)
    | @carved other page rest small unlisted _ =>
        change (stock.restocked other page).pagesOf sizeClass * _ < _
        rw [Stock.pagesOf_restocked]
        by_cases same : other = sizeClass
        · subst other
          have counted := holds.length_stocked sizeClass
          rw [unlisted] at counted
          have one := SizeClass.blocksAmong_cons small stock.live
          have new := Nat.le_max_right (peak sizeClass)
            (sizeClass.blocksAmong (buffer :: stock.live))
          rw [if_pos rfl, Nat.succ_mul]
          simp only [List.length_nil] at counted
          omega
        · rw [if_neg same]
          exact Nat.lt_of_lt_of_le old (Nat.add_le_add_right (Nat.le_max_left _ _) _)

theorem Turns.peaks (turns : heap.Turns stock given taken later next) (holds : heap.Holds stock)
    (peaks : stock.Peaks peak) :
    next.Peaks fun sizeClass =>
      max (peak sizeClass) (sizeClass.blocksAmong (given.toList ++ stock.live)) := by
  have still : (fun sizeClass : SizeClass =>
      max (peak sizeClass) (sizeClass.blocksAmong stock.live)) = peak :=
    funext fun sizeClass => Nat.max_eq_left (peaks.live sizeClass)
  cases turns with
  | kept _ _ =>
      simp only [Option.toList_none, List.nil_append, still]
      exact peaks
  | handedOut handsOut => exact handsOut.peaks holds peaks
  | takenBack takesBack =>
      simp only [Option.toList_none, List.nil_append, still]
      exact peaks.returned takesBack.returns
  | moved handsOut takesBack => exact (handsOut.peaks holds peaks).returned takesBack.returns

end Heap

variable {region : AddressRange} {memory : Memory} {past : ServiceHistory} {heap : Heap}
  {stock : Stock}

theorem StockRun.peaks (run : StockRun region memory past heap stock) : stock.Peaks past.peak := by
  induction run with
  | start =>
      refine ⟨fun _ => Nat.le_refl _, fun _ => Nat.zero_le _, ?_⟩
      intro sizeClass
      rw [Stock.pagesOf, List.countP_nil, Nat.zero_mul]
      exact Nat.lt_of_lt_of_le sizeClass.perPage_pos (Nat.le_add_left _ _)
  | call run moves ih =>
      have peaks := moves.turns.peaks run.holds ih
      rw [run.live] at peaks
      exact peaks

namespace Stock

theorem sum_ownPages (live : List Buffer) :
    ((live.filterMap Buffer.grant?).map (·.count)).sum = (live.map Buffer.ownPages).sum := by
  induction live with
  | nil => rfl
  | cons buffer rest ih =>
      rw [List.map_cons, List.sum_cons, ← ih]
      cases buffer with
      | pages base count => rfl
      | pool pointer bytes =>
          by_cases large : BlockHeader.largestBlock < bytes + BlockHeader.bytes
          · have whole : (Buffer.pool pointer bytes).grant? = some _ := if_pos large
            rw [List.filterMap_cons_some whole, List.map_cons, List.sum_cons, Buffer.ownPages,
              if_pos large]
          · have none : (Buffer.pool pointer bytes).grant? = none := if_neg large
            rw [List.filterMap_cons_none none, Buffer.ownPages, if_neg large, Nat.zero_add]

theorem sum_pagesOf (stock : Stock) :
    ∑ sizeClass : SizeClass, stock.pagesOf sizeClass = stock.carved.length := by
  simp only [pagesOf]
  induction stock.carved with
  | nil => simp
  | cons page rest ih =>
      simp only [List.countP_cons, decide_eq_true_eq, Finset.sum_add_distrib, ih, List.length_cons]
      rw [Finset.sum_ite_eq, if_pos (Finset.mem_univ _)]

theorem sum_grants (stock : Stock) :
    (stock.grants.map (·.count)).sum =
      (stock.live.map Buffer.ownPages).sum + ∑ sizeClass, stock.pagesOf sizeClass := by
  have single : ∀ carved : List (Nat × SizeClass),
      ((carved.map fun page => (⟨page.1, 1⟩ : Grant)).map (·.count)).sum = carved.length := by
    intro carved
    induction carved with
    | nil => rfl
    | cons page rest ih =>
        rw [List.map_cons, List.map_cons, List.sum_cons, ih, List.length_cons, Nat.add_comm]
  rw [grants, List.map_append, List.sum_append, sum_ownPages, single, sum_pagesOf]

end Stock

theorem StockRun.balance (run : StockRun region memory past heap stock) :
    MemoryServices.totalPages heap = MemoryServices.freePageCount heap +
      (past.live.map Buffer.ownPages).sum +
        ∑ sizeClass : SizeClass, sizeClass.pagesFor (past.peak sizeClass) := by
  have free := run.holds.records.free
  rw [stock.sum_grants, run.live] at free
  simp only [run.peaks.pagesFor]
  rw [Nat.add_assoc]
  exact free.symm

end PartitionBoot
