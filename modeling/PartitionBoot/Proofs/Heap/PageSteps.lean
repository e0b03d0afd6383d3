import PartitionBoot.Heap.Pages
import PartitionBoot.Proofs.Heap.GrantLookup
import PartitionBoot.Proofs.Heap.PoolLayout
import PartitionBoot.Proofs.Outcome

/-!
What the page operations of a heap do: a new pool records no grant, an allocation grants vacant
pages or changes nothing, and a free takes back one recorded grant or stops.
-/

namespace PartitionBoot

def HeapFault.ofAlignment : HeapFault → Bool
  | alignmentNotPowerOfTwo _ | alignmentOverflow _ _ | aligningOverflow _ _ => true
  | _ => false

namespace Heap

variable {heap : Heap}

theorem outcome_grant (index pages : Nat) (heap : Heap) :
    (grant index pages).outcome heap =
      (.ok (heap.pages.address index), heap.withPages (heap.pages.mark heap.memory index pages)) := by
  simp only [grant, Step.outcome_bind, Step.outcome_modify, Step.outcome_get, Step.outcome_note,
    Step.outcome_pure]
  rfl

def granted (heap : Heap) (index pages : Nat) : Heap :=
  heap.withPages (heap.pages.mark heap.memory index pages)

theorem outcome_allocatePages {pages : Nat} (positive : 0 < pages) (heap : Heap) :
    (allocatePages pages).outcome heap =
      match heap.pages.findFree heap.memory pages with
      | none => (.ok none, heap)
      | some index => (.ok (some (heap.pages.address index)), heap.granted index pages) := by
  simp only [allocatePages, Step.outcome_bind, Step.outcome_get, if_neg (Nat.ne_of_gt positive)]
  cases heap.pages.findFree heap.memory pages with
  | none => rfl
  | some index =>
      simp only [Step.outcome_map, outcome_grant]
      rfl

theorem allocatePages_cases (pages : Nat) (heap : Heap) :
    (allocatePages pages).outcome heap = (.ok none, heap) ∨
      ∃ index, heap.pages.Vacant heap.memory index pages ∧
        (allocatePages pages).outcome heap =
          (.ok (some (heap.pages.address index)), heap.granted index pages) := by
  rcases Nat.eq_zero_or_pos pages with none | positive
  · left
    subst none
    rfl
  · rw [outcome_allocatePages positive]
    cases found : heap.pages.findFree heap.memory pages with
    | none => exact Or.inl rfl
    | some index => exact Or.inr ⟨index, PagePool.findFree_vacant found positive, rfl⟩

theorem page_dvd_alignment {alignment : Nat} (power : 1 <<< alignment.log2 = alignment)
    (large : Page.size < alignment) : Page.size ∣ alignment := by
  have size : Page.size = 2 ^ 12 := rfl
  rw [Nat.shiftLeft_eq, Nat.one_mul] at power
  rw [← power, size] at large ⊢
  exact Nat.pow_dvd_pow 2 (Nat.le_of_lt ((Nat.pow_lt_pow_iff_right (by decide)).mp large))

theorem aligned_within {pool : PagePool} {index pages alignment : Nat} (shape : pool.Shape)
    (power : 1 <<< alignment.log2 = alignment) (large : Page.size < alignment)
    (inside : index + (pages + Page.spanning alignment) ≤ pool.total) :
    let aligned := alignUp (pool.address index) alignment
    let first := (aligned - pool.first) / Page.size
    pool.address first = aligned ∧ index ≤ first ∧
      first + pages ≤ index + (pages + Page.spanning alignment) := by
  intro aligned first
  have size : Page.size = 4096 := rfl
  obtain ⟨factor, multiple⟩ := page_dvd_alignment power large
  have spare := Page.le_spanning alignment
  simp only [Page.bytes, size] at spare large
  have whole := shape.aligned (by omega)
  have lower : pool.address index ≤ aligned := le_alignUp _ (by omega)
  have upper : aligned ≤ pool.address index + (alignment - 1) := Nat.div_mul_le_self _ _
  have spanning : Page.spanning alignment = factor := by
    simp [Page.spanning, size, multiple]
  -- The alignment is a multiple of the page size, so aligned addresses are page addresses.
  obtain ⟨steps, stepped⟩ : ∃ steps, aligned = 4096 * steps :=
    ⟨(pool.address index + (alignment - 1)) / alignment * factor, by
      rw [Nat.mul_left_comm, ← size, ← multiple]
      exact rfl⟩
  simp only [first, PagePool.address_eq, size, spanning] at *
  omega

theorem vacant_aligned {pool : PagePool} {memory : Memory} {index pages alignment : Nat}
    (shape : pool.Shape) (power : 1 <<< alignment.log2 = alignment) (large : Page.size < alignment)
    (positive : 0 < pages)
    (window : pool.Vacant memory index (pages + Page.spanning alignment)) :
    let aligned := alignUp (pool.address index) alignment
    pool.address ((aligned - pool.first) / Page.size) = aligned ∧
      pool.Vacant memory ((aligned - pool.first) / Page.size) pages := by
  obtain ⟨_, inside, enough, unused⟩ := window
  obtain ⟨place, lower, upper⟩ := aligned_within shape power large inside
  refine ⟨place, positive, by omega, by omega, ?_⟩
  intro page first last
  exact unused page (by omega) (by omega)

/-- Pages at an alignment of more than a page are the aligned ones of a window with one alignment
to spare. Rounding up inside of a window never leaves the address space. -/
theorem outcome_allocateAlignedPages {pages alignment : Nat} (shape : heap.pages.Shape)
    (power : 1 <<< alignment.log2 = alignment) (large : Page.size < alignment)
    (positive : 0 < pages) (fits : pages + Page.spanning alignment < UInt64.size) :
    (allocateAlignedPages pages alignment).outcome heap =
      match heap.pages.findFree heap.memory (pages + Page.spanning alignment) with
      | none => (.ok none, heap)
      | some index =>
          let aligned := alignUp (heap.pages.address index) alignment
          (.ok (some aligned), heap.granted ((aligned - heap.pages.first) / Page.size) pages) := by
  have accepted : ¬ (alignment != 0 && 1 <<< alignment.log2 != alignment) = true := by
    simp [power]
  simp only [allocateAlignedPages, Step.outcome_bind, Step.outcome_get]
  rw [if_neg accepted, if_neg (Nat.ne_of_gt positive), if_neg (Nat.not_le_of_lt large),
    if_neg (Nat.not_le_of_lt fits)]
  cases found : heap.pages.findFree heap.memory (pages + Page.spanning alignment) with
  | none => rfl
  | some index =>
      have window := PagePool.findFree_vacant found (by omega)
      have room : ¬ UInt64.size ≤ heap.pages.address index + (alignment - 1) := by
        have spare := Page.le_spanning alignment
        have inside := window.inside
        have bounded := shape.bounded
        simp only [PagePool.stop, PagePool.address_eq, Page.bytes, Page.size] at *
        omega
      simp only [if_neg room, Step.outcome_bind, outcome_grant, Step.outcome_pure]
      rfl

theorem allocateAlignedPages_cases (shape : heap.pages.Shape) (pages alignment : Nat) :
    (allocateAlignedPages pages alignment).outcome heap = (.ok none, heap) ∨
      (∃ fault, (allocateAlignedPages pages alignment).outcome heap = (.error fault, heap)) ∨
      ∃ index, heap.pages.Vacant heap.memory index pages ∧
        (allocateAlignedPages pages alignment).outcome heap =
          (.ok (some (heap.pages.address index)), heap.granted index pages) := by
  by_cases odd : (alignment != 0 && 1 <<< alignment.log2 != alignment) = true
  · refine Or.inr (Or.inl ⟨.alignmentNotPowerOfTwo alignment, ?_⟩)
    simp only [allocateAlignedPages, Step.outcome_bind, Step.outcome_get, if_pos odd,
      Step.outcome_fail]
  rcases Nat.eq_zero_or_pos pages with none | positive
  · left
    simp only [allocateAlignedPages, Step.outcome_bind, Step.outcome_get, if_neg odd, if_pos none,
      Step.outcome_pure]
  by_cases small : alignment ≤ Page.size
  · have plain : (allocateAlignedPages pages alignment).outcome heap =
        (allocatePages pages).outcome heap := by
      simp only [allocateAlignedPages, Step.outcome_bind, Step.outcome_get, if_neg odd,
        if_neg (Nat.ne_of_gt positive), if_pos small]
    rw [plain]
    exact (allocatePages_cases pages heap).imp_right Or.inr
  by_cases wide : UInt64.size ≤ pages + Page.spanning alignment
  · refine Or.inr (Or.inl ⟨.alignmentOverflow pages alignment, ?_⟩)
    simp only [allocateAlignedPages, Step.outcome_bind, Step.outcome_get, if_neg odd,
      if_neg (Nat.ne_of_gt positive), if_neg small, if_pos wide, Step.outcome_fail]
  have power : 1 <<< alignment.log2 = alignment := by
    simp only [Bool.and_eq_true, bne_iff_ne, not_and, Decidable.not_not] at odd
    exact odd (by omega)
  rw [outcome_allocateAlignedPages shape power (by omega) positive (by omega)]
  cases found : heap.pages.findFree heap.memory (pages + Page.spanning alignment) with
  | none => exact Or.inl rfl
  | some index =>
      obtain ⟨place, vacant⟩ := vacant_aligned shape power (by omega) positive
        (PagePool.findFree_vacant found (by omega))
      refine Or.inr (Or.inr ⟨_, vacant, ?_⟩)
      rw [place]

theorem allocateAlignedPages_fault {later : Heap} {pages alignment : Nat} {fault : HeapFault}
    (stopped : (allocateAlignedPages pages alignment).outcome heap = (.error fault, later)) :
    fault.ofAlignment = true := by
  simp only [allocateAlignedPages, Step.outcome_bind, Step.outcome_get] at stopped
  split at stopped
  · cases stopped
    rfl
  · split at stopped
    · cases stopped
    · split at stopped
      · rcases allocatePages_cases pages heap with refused | ⟨_, _, granted⟩
        · rw [refused] at stopped
          cases stopped
        · rw [granted] at stopped
          cases stopped
      · split at stopped
        · cases stopped
          rfl
        · cases found : heap.pages.findFree heap.memory (pages + Page.spanning alignment) with
          | none =>
              rw [found] at stopped
              cases stopped
          | some index =>
              simp only [found] at stopped
              split at stopped
              · cases stopped
                rfl
              · simp only [Step.outcome_bind, outcome_grant] at stopped
                cases stopped

theorem outcome_freePages (base pages : Nat) (heap : Heap) :
    (freePages base pages).outcome heap =
      match heap.pages.grantIndex? heap.memory base pages with
      | none => (.error (.unmatchedFree base pages), heap)
      | some index => (.ok (), heap.withPages (heap.pages.unmark heap.memory index pages)) := by
  simp only [freePages, Step.outcome_bind, Step.outcome_get]
  cases heap.pages.grantIndex? heap.memory base pages with
  | none => rfl
  | some index =>
      simp only [Step.outcome_bind, Step.outcome_set, Step.outcome_note]

end Heap

end PartitionBoot
