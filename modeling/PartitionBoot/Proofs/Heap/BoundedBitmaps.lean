import PartitionBoot.Proofs.Heap.PageSteps

/-!
The page operations once more, over bitmaps that have an end: an access behind the last bit of a
bitmap gives nothing and ends the operation. On a heap whose bitmaps record its grants this never
happens, and both versions come to the same.
-/

namespace PartitionBoot

namespace PagePool

def used? (pool : PagePool) (memory : Memory) (page : Nat) : Option Bool :=
  if page < pool.slots then some (pool.used memory page) else none

def isHead? (pool : PagePool) (memory : Memory) (page : Nat) : Option Bool :=
  if page < pool.slots then some (pool.isHead memory page) else none

def wordFull? (pool : PagePool) (memory : Memory) (word : Nat) : Option Bool :=
  if 64 * word < pool.slots then some (memory.wordFull pool.bitmap word) else none

def skips? (pool : PagePool) (memory : Memory) (page : Nat) : Option Bool :=
  if page % 64 = 63 then pool.wordFull? memory (page / 64) else some false

def scan? (pool : PagePool) (memory : Memory) (wanted run index : Nat) : Option (Option Nat) :=
  if _ : index = 0 then some none
  else
    let page := index - 1
    (pool.skips? memory page).bind fun full =>
      if full then pool.scan? memory wanted 0 (page - 63)
      else
        (pool.used? memory page).bind fun used =>
          if used then pool.scan? memory wanted 0 page
          else if run + 1 = wanted then some (some page)
          else pool.scan? memory wanted (run + 1) page
termination_by index

def findFree? (pool : PagePool) (memory : Memory) (pages : Nat) : Option (Option Nat) :=
  if pool.free < pages then some none else pool.scan? memory pages 0 pool.total

def allPages? (test : Nat → Option Bool) (index : Nat) : Nat → Option Bool
  | 0 => some true
  | count + 1 => do if ← test index then allPages? test (index + 1) count else some false

def lookup? (pool : PagePool) (memory : Memory) (base pages : Nat) : Option (Option Nat) :=
  let offset := base - pool.first
  let index := offset / Page.size
  let stop := index + pages
  if base < pool.first || pages = 0 || offset % Page.size != 0 || pool.total < stop then some none
  else do
    if !(← pool.isHead? memory index) then some none
    else if !(← allPages? (pool.used? memory) index pages) then some none
    else if !(← allPages? (fun page => (!·) <$> pool.isHead? memory page) (index + 1) (pages - 1))
    then some none
    else if stop = pool.total then some (some index)
    else if !(← pool.used? memory stop) then some (some index)
    else if ← pool.isHead? memory stop then some (some index)
    else some none

def setUsed? (pool : PagePool) (memory : Memory) (index : Nat) (value : Bool) :
    Nat → Option Memory
  | 0 => some memory
  | count + 1 =>
      if index < pool.slots then
        pool.setUsed? (memory.setBit pool.bitmap index value) (index + 1) value count
      else none

def stamp? (pool : PagePool) (memory : Memory) (index pages : Nat) (value : Bool) :
    Option Memory :=
  if index < pool.slots then
    pool.setUsed? (memory.setBit pool.heads index value) index value pages
  else none

variable {pool : PagePool} {memory : Memory}

theorem used?_eq {page : Nat} (inside : page < pool.slots) :
    pool.used? memory page = some (pool.used memory page) := if_pos inside

theorem isHead?_eq {page : Nat} (inside : page < pool.slots) :
    pool.isHead? memory page = some (pool.isHead memory page) := if_pos inside

theorem skips?_eq {page : Nat} (inside : page < pool.slots) :
    pool.skips? memory page =
      some (decide (page % 64 = 63) && memory.wordFull pool.bitmap (page / 64)) := by
  rw [skips?]
  split
  · rename_i last
    rw [wordFull?, if_pos (by omega)]
    simp [last]
  · rename_i early
    simp [early]

theorem scan?_eq {wanted run index : Nat} (inside : index ≤ pool.slots) :
    pool.scan? memory wanted run index = some (pool.scan memory wanted run index) := by
  fun_induction scan pool memory wanted run index with
  | case1 run => rw [scan?, dif_pos rfl]
  | case2 run index positive page full ih =>
      have bound : page < pool.slots := by omega
      rw [scan?, dif_neg positive]
      change (pool.skips? memory page).bind _ = _
      rw [skips?_eq bound, full, ← ih (by omega)]
      rfl
  | case3 run index positive page notFull taken ih =>
      have bound : page < pool.slots := by omega
      rw [scan?, dif_neg positive]
      change (pool.skips? memory page).bind _ = _
      rw [skips?_eq bound, Bool.eq_false_iff.mpr notFull,
        used?_eq bound, taken, ← ih (by omega)]
      rfl
  | case4 run index positive page notFull untaken done =>
      have bound : page < pool.slots := by omega
      rw [scan?, dif_neg positive]
      change (pool.skips? memory page).bind _ = _
      rw [skips?_eq bound, Bool.eq_false_iff.mpr notFull,
        used?_eq bound, Bool.eq_false_iff.mpr untaken]
      simp [done, page]
  | case5 run index positive page notFull untaken undone ih =>
      have bound : page < pool.slots := by omega
      rw [scan?, dif_neg positive]
      change (pool.skips? memory page).bind _ = _
      rw [skips?_eq bound, Bool.eq_false_iff.mpr notFull,
        used?_eq bound, Bool.eq_false_iff.mpr untaken, ← ih (by omega)]
      simp [undone, page]

theorem findFree?_eq (shape : pool.Shape) (pages : Nat) :
    pool.findFree? memory pages = some (pool.findFree memory pages) := by
  rw [findFree?, findFree]
  split
  · rfl
  · exact scan?_eq shape.total_le_slots

theorem allPages?_eq {test : Nat → Option Bool} (holds : Nat → Bool) {index count : Nat}
    (inside : ∀ page, index ≤ page → page < index + count → test page = some (holds page)) :
    allPages? test index count = some ((List.range count).all fun page => holds (index + page)) := by
  induction count generalizing index with
  | zero => rfl
  | succ count ih =>
      rw [allPages?, inside index (by omega) (by omega), List.range_succ_eq_map]
      simp only [Option.bind_eq_bind, Option.bind_some, List.all_cons, List.all_map, Nat.add_zero]
      cases holds index with
      | false => rfl
      | true =>
          simp only [if_true, Bool.true_and]
          rw [ih fun page lower upper => inside page (by omega) (by omega)]
          congr 2
          funext page
          simp only [Function.comp_apply]
          congr 1
          omega

theorem lookup?_eq (shape : pool.Shape) (base pages : Nat) :
    pool.lookup? memory base pages = some (pool.grantIndex? memory base pages) := by
  have slots := shape.total_le_slots
  rw [lookup?, grantIndex?]
  simp only
  generalize (base - pool.first) / Page.size = index
  split
  · rfl
  · rename_i accepted
    simp only [Bool.or_eq_true, decide_eq_true_eq, bne_iff_ne, not_or] at accepted
    have used : allPages? (pool.used? memory) index pages =
        some ((List.range pages).all fun page => pool.used memory (index + page)) :=
      allPages?_eq (pool.used memory) fun page _ upper => used?_eq (by omega)
    have single : allPages? (fun page => (!·) <$> pool.isHead? memory page) (index + 1) (pages - 1) =
        some ((List.range (pages - 1)).all fun page => !pool.isHead memory (index + 1 + page)) :=
      allPages?_eq (fun page => !pool.isHead memory page) fun page _ upper => by
        rw [isHead?_eq (by omega)]
        rfl
    rw [isHead?_eq (by omega), used, single]
    simp only [Option.bind_eq_bind, Option.bind_some]
    cases pool.isHead memory index with
    | false => rfl
    | true =>
        cases (List.range pages).all fun page => pool.used memory (index + page) with
        | false => rfl
        | true =>
            cases (List.range (pages - 1)).all fun page =>
                !pool.isHead memory (index + 1 + page) with
            | false => rfl
            | true =>
                by_cases atEnd : index + pages = pool.total
                · simp [atEnd]
                · rw [used?_eq (by omega), isHead?_eq (by omega)]
                  cases pool.used memory (index + pages) <;>
                    cases pool.isHead memory (index + pages) <;> simp [atEnd]

theorem setUsed?_eq {index count : Nat} {value : Bool} (inside : index + count ≤ pool.slots) :
    pool.setUsed? memory index value count =
      some (memory.setBits pool.bitmap index value count) := by
  induction count generalizing memory index with
  | zero => rfl
  | succ count ih =>
      rw [setUsed?, if_pos (by omega), ih (by omega)]
      rfl

theorem stamp?_eq {index pages : Nat} {value : Bool} (positive : 0 < pages)
    (inside : index + pages ≤ pool.slots) :
    pool.stamp? memory index pages value = some (pool.stamp memory index pages value) := by
  rw [stamp?, if_pos (by omega), setUsed?_eq inside]
  rfl

end PagePool

namespace Heap

def grant? (heap : Heap) (index pages : Nat) :
    Option (Except HeapFault (Option Nat) × Heap) := do
  let memory ← heap.pages.stamp? heap.memory index pages true
  some (.ok (some (heap.pages.address index)),
    heap.withPages ({ heap.pages with free := heap.pages.free - pages }, memory))

def allocatePages? (heap : Heap) (pages : Nat) :
    Option (Except HeapFault (Option Nat) × Heap) :=
  if pages = 0 then some (.ok none, heap)
  else do
    match ← heap.pages.findFree? heap.memory pages with
    | none => some (.ok none, heap)
    | some index => heap.grant? index pages

def allocateAlignedPages? (heap : Heap) (pages alignment : Nat) :
    Option (Except HeapFault (Option Nat) × Heap) :=
  if alignment != 0 && 1 <<< alignment.log2 != alignment then
    some (.error (.alignmentNotPowerOfTwo alignment), heap)
  else if pages = 0 then some (.ok none, heap)
  else if alignment ≤ Page.size then heap.allocatePages? pages
  else if UInt64.size ≤ pages + Page.spanning alignment then
    some (.error (.alignmentOverflow pages alignment), heap)
  else do
    match ← heap.pages.findFree? heap.memory (pages + Page.spanning alignment) with
    | none => some (.ok none, heap)
    | some index =>
        let lowest := heap.pages.address index
        if UInt64.size ≤ lowest + (alignment - 1) then
          some (.error (.aligningOverflow lowest alignment), heap)
        else
          heap.grant? ((alignUp lowest alignment - heap.pages.first) / Page.size) pages

def freePages? (heap : Heap) (base pages : Nat) :
    Option (Except HeapFault Unit × Heap) := do
  match ← heap.pages.lookup? heap.memory base pages with
  | none => some (.error (.unmatchedFree base pages), heap)
  | some index => do
      let memory ← heap.pages.stamp? heap.memory index pages false
      some (.ok (), heap.withPages ({ heap.pages with free := heap.pages.free + pages }, memory))

variable {heap : Heap}

theorem grant?_eq (shape : heap.pages.Shape) {index pages : Nat}
    (vacant : heap.pages.Vacant heap.memory index pages) :
    heap.grant? index pages =
      some (.ok (some (heap.pages.address index)), heap.granted index pages) := by
  have slots := shape.total_le_slots
  have inside := vacant.inside
  rw [grant?, PagePool.stamp?_eq vacant.positive (by omega)]
  rfl

theorem allocatePages?_eq (shape : heap.pages.Shape) (pages : Nat) :
    heap.allocatePages? pages = some ((allocatePages pages).outcome heap) := by
  simp only [allocatePages?, allocatePages, Step.outcome_bind, Step.outcome_get,
    PagePool.findFree?_eq shape, Option.bind_eq_bind, Option.bind_some]
  by_cases none : pages = 0
  · rw [if_pos none, if_pos none, Step.outcome_pure]
  · rw [if_neg none, if_neg none]
    cases found : heap.pages.findFree heap.memory pages with
    | none => rfl
    | some index =>
        simp only [grant?_eq shape (PagePool.findFree_vacant found (by omega)),
          Step.outcome_map, outcome_grant]
        rfl

theorem allocateAlignedPages?_eq (shape : heap.pages.Shape) (pages alignment : Nat) :
    heap.allocateAlignedPages? pages alignment =
      some ((allocateAlignedPages pages alignment).outcome heap) := by
  simp only [allocateAlignedPages?, allocateAlignedPages, Step.outcome_bind, Step.outcome_get,
    PagePool.findFree?_eq shape, Option.bind_eq_bind, Option.bind_some]
  by_cases odd : (alignment != 0 && 1 <<< alignment.log2 != alignment) = true
  · rw [if_pos odd, if_pos odd, Step.outcome_fail]
  · rw [if_neg odd, if_neg odd]
    by_cases none : pages = 0
    · rw [if_pos none, if_pos none, Step.outcome_pure]
    · rw [if_neg none, if_neg none]
      by_cases small : alignment ≤ Page.size
      · rw [if_pos small, if_pos small, allocatePages?_eq shape]
      · rw [if_neg small, if_neg small]
        by_cases wide : UInt64.size ≤ pages + Page.spanning alignment
        · rw [if_pos wide, if_pos wide, Step.outcome_fail]
        · rw [if_neg wide, if_neg wide]
          cases found : heap.pages.findFree heap.memory (pages + Page.spanning alignment) with
          | none => rfl
          | some index =>
              simp only
              by_cases wraps : UInt64.size ≤ heap.pages.address index + (alignment - 1)
              · rw [if_pos wraps, if_pos wraps, Step.outcome_fail]
              · rw [if_neg wraps, if_neg wraps]
                have power : 1 <<< alignment.log2 = alignment := by
                  simp only [Bool.and_eq_true, bne_iff_ne, not_and, Decidable.not_not] at odd
                  exact odd (by omega)
                obtain ⟨place, vacant⟩ := vacant_aligned shape power (by omega) (by omega)
                  (PagePool.findFree_vacant found (by omega))
                simp only [grant?_eq shape vacant, place, Step.outcome_bind, outcome_grant,
                  Step.outcome_pure]
                rfl

theorem freePages?_eq (shape : heap.pages.Shape) (base pages : Nat) :
    heap.freePages? base pages = some ((freePages base pages).outcome heap) := by
  have slots := shape.total_le_slots
  rw [freePages?, PagePool.lookup?_eq shape, outcome_freePages]
  simp only [Option.bind_eq_bind, Option.bind_some]
  cases found : heap.pages.grantIndex? heap.memory base pages with
  | none => rfl
  | some index =>
      have delimited := ((PagePool.grantIndex?_eq_some_iff base pages index).mp found).2
      have inside := delimited.inside
      simp only [PagePool.stamp?_eq delimited.positive
        (show index + pages ≤ heap.pages.slots by omega), Option.bind_some]
      rfl

end Heap

end PartitionBoot
