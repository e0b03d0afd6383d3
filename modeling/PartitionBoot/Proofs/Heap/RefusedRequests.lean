import PartitionBoot.Proofs.Heap.Exhaustion
import PartitionBoot.Proofs.Heap.HighestWindow

/-!
Requests that get no memory. A request is refused exactly where something is missing that it needs,
and a refused request has changed nothing. What is handed out never lies at address zero, so no
request can fail once it has taken its pages.
-/

namespace PartitionBoot

theorem Page.spanning_pos {bytes : Nat} (positive : 0 < bytes) : 0 < Page.spanning bytes := by
  have room := Page.le_spanning bytes
  apply Nat.pos_of_ne_zero
  intro none
  rw [none, Page.bytes, Nat.zero_mul] at room
  omega

theorem shift_log2_iff {alignment : Nat} :
    1 <<< alignment.log2 = alignment ↔ alignment.isPowerOfTwo := by
  rw [Nat.one_shiftLeft]
  constructor
  · exact fun power => ⟨_, power.symm⟩
  · rintro ⟨exponent, power⟩
    rw [power, Nat.log2_two_pow]

namespace Heap

variable {heap : Heap} {stock : Stock}

def LacksWindow (heap : Heap) (pages : Nat) : Prop :=
  heap.pages.windows (heap.pages.Unused heap.memory) pages = ∅

/-- What keeps a buffer from being had: its block has no size that fits a word, or no pages of its
own, or neither a free block of its class nor a page to carve into blocks. -/
def LacksBytes (heap : Heap) (bytes : Nat) : Prop :=
  let total := bytes + BlockHeader.bytes
  UInt64.size ≤ total ∨
    BlockHeader.largestBlock < total ∧ heap.LacksWindow (Page.spanning total) ∨
    total ≤ BlockHeader.largestBlock ∧ heap.firstFree (SizeClass.holding total) = 0 ∧
      heap.LacksWindow 1

/-- What keeps aligned pages from being had. A request stops at a malformed alignment, and at a
window that is too long for a word, before it looks for pages. -/
def LacksAligned (heap : Heap) (count alignment : Nat) : Prop :=
  (alignment = 0 ∨ alignment.isPowerOfTwo) ∧
    (count = 0 ∨
      alignment ≤ Page.size ∧ heap.LacksWindow count ∨
      Page.size < alignment ∧ count + Page.spanning alignment < UInt64.size ∧
        heap.LacksWindow (count + Page.spanning alignment))

/-- A request is refused, without a change, exactly if something is missing. Else it hands out an
address that is not zero, or stops. -/
inductive Refuses (request : Step Heap HeapFault (Option Nat)) (heap : Heap) (missing : Prop) :
    Prop
  | refused : missing → request.outcome heap = (.ok none, heap) → Refuses request heap missing
  | served (address : Nat) (later : Heap) : ¬ missing → 0 < address →
      request.outcome heap = (.ok (some address), later) → Refuses request heap missing
  | stopped (fault : HeapFault) (later : Heap) : ¬ missing →
      request.outcome heap = (.error fault, later) → Refuses request heap missing

namespace Refuses

variable {request filling : Step Heap HeapFault (Option Nat)} {missing : Prop}

theorem iff (refuses : Refuses request heap missing) :
    (request.outcome heap).1 = .ok none ↔ missing := by
  cases refuses with
  | refused short outcome => simp [outcome, short]
  | served address later enough _ outcome => simp [outcome, enough]
  | stopped fault later enough outcome => simp [outcome, enough]

theorem unchanged (refuses : Refuses request heap missing)
    (denied : (request.outcome heap).1 = .ok none) : request.outcome heap = (.ok none, heap) := by
  cases refuses with
  | refused _ outcome => exact outcome
  | served address later enough positive outcome => simp [outcome] at denied
  | stopped fault later enough outcome => simp [outcome] at denied

theorem address_pos (refuses : Refuses request heap missing) {address : Nat}
    (handed : (request.outcome heap).1 = .ok (some address)) : 0 < address := by
  cases refuses with
  | refused _ outcome => simp [outcome] at handed
  | served place later enough positive outcome =>
      simp only [outcome, Except.ok.injEq, Option.some.injEq] at handed
      rwa [← handed]
  | stopped fault later enough outcome => simp [outcome] at handed

theorem congr (refuses : Refuses request heap missing) {other : Prop}
    (same : filling.outcome heap = request.outcome heap) (equivalent : missing ↔ other) :
    Refuses filling heap other := by
  rw [← propext equivalent]
  cases refuses with
  | refused short outcome => exact .refused short (same.trans outcome)
  | served address later enough positive outcome =>
      exact .served address later enough positive (same.trans outcome)
  | stopped fault later enough outcome => exact .stopped fault later enough (same.trans outcome)

theorem backed (refuses : Refuses request heap missing) (category : MemoryCategory) :
    Refuses (MemoryServices.backed category request) heap
      (category.isBacked = false ∨ missing) := by
  rw [MemoryServices.backed]
  cases kind : category.isBacked with
  | false => exact .refused (Or.inl rfl) rfl
  | true =>
      cases refuses with
      | refused short outcome => exact .refused (Or.inr short) outcome
      | served address later enough positive outcome =>
          exact .served address later (by simpa using enough) positive outcome
      | stopped fault later enough outcome =>
          exact .stopped fault later (by simpa using enough) outcome

theorem filled (refuses : Refuses request heap missing) (change : Nat → Heap → Heap)
    (fills : filling.outcome heap = match request.outcome heap with
      | (.ok (some address), later) => (.ok (some address), change address later)
      | unfilled => unfilled) : Refuses filling heap missing := by
  cases refuses with
  | refused short outcome =>
      rw [outcome] at fills
      exact .refused short fills
  | served address later enough positive outcome =>
      rw [outcome] at fills
      exact .served address _ enough positive fills
  | stopped fault later enough outcome =>
      rw [outcome] at fills
      exact .stopped fault later enough fills

theorem moved {category : MemoryCategory} {oldSize newSize : Nat} {old : Option Nat}
    (refuses : Refuses (MemoryServices.allocateZeroPool category newSize) heap missing) :
    Refuses (MemoryServices.reallocatePool category oldSize newSize old) heap missing := by
  cases old with
  | none =>
      exact refuses.congr
        (MemoryServices.outcome_reallocatePool_none category oldSize newSize heap) Iff.rfl
  | some old =>
      have outcome :=
        MemoryServices.outcome_reallocatePool_some category oldSize newSize old heap
      cases refuses with
      | refused short refusal =>
          rw [refusal] at outcome
          exact .refused short outcome
      | stopped fault later enough halt =>
          rw [halt] at outcome
          exact .stopped fault later enough outcome
      | served address later enough positive zeroed =>
          simp only [zeroed] at outcome
          split at outcome
          · exact .stopped _ later enough outcome
          · split at outcome
            · exact .served address _ enough positive outcome
            · exact .stopped _ _ enough outcome

end Refuses

theorem outcome_allocateBytes_large {bytes : Nat}
    (large : BlockHeader.largestBlock < bytes + BlockHeader.bytes)
    (fits : bytes + BlockHeader.bytes < UInt64.size) :
    (Heap.allocateBytes bytes).outcome heap =
      match heap.pages.findFree heap.memory (Page.spanning (bytes + BlockHeader.bytes)) with
      | none => (.ok none, heap)
      | some index => (.ok (some (heap.pages.address index + BlockHeader.bytes)),
          heap.largeGranted index bytes) := by
  have positive : 0 < Page.spanning (bytes + BlockHeader.bytes) :=
    Page.spanning_pos (Nat.zero_lt_of_lt large)
  have granted := outcome_allocatePages positive heap
  rw [Heap.allocateBytes, if_neg (Nat.not_le_of_lt fits), if_pos large]
  cases found : heap.pages.findFree heap.memory (Page.spanning (bytes + BlockHeader.bytes)) with
  | none =>
      rw [found] at granted
      rw [Step.outcome_bind_ok granted, Step.outcome_pure]
  | some index =>
      rw [found] at granted
      rw [Step.outcome_bind_ok granted, Step.outcome_map, outcome_enliven]
      rfl

namespace Holds

theorem findFree_eq_none_iff (holds : heap.Holds stock) {pages : Nat} (positive : 0 < pages) :
    heap.pages.findFree heap.memory pages = none ↔ heap.LacksWindow pages := by
  rw [LacksWindow, holds.records.windows_eq holds.shape]
  exact holds.records.findFree_eq_none_iff holds.shape positive

/-- The bitmaps lie below the pages that are granted, so no page lies at address zero. -/
theorem address_pos (holds : heap.Holds stock) {index pages : Nat}
    (vacant : heap.pages.Vacant heap.memory index pages) : 0 < heap.pages.address index := by
  have positive := vacant.positive
  have inside := vacant.inside
  have covered := holds.shape.covered
  have room := holds.shape.room (by omega)
  rw [PagePool.address_eq]
  omega

theorem refuses_window (holds : heap.Holds stock) {request : Step Heap HeapFault (Option Nat)}
    {pages : Nat} (positive : 0 < pages) {place : Nat → Nat} {later : Nat → Heap}
    (outcome : request.outcome heap = match heap.pages.findFree heap.memory pages with
      | none => (.ok none, heap)
      | some index => (.ok (some (place index)), later index))
    (above : ∀ index, heap.pages.address index ≤ place index) :
    Refuses request heap (heap.LacksWindow pages) := by
  have missed := holds.findFree_eq_none_iff positive
  cases found : heap.pages.findFree heap.memory pages with
  | none =>
      rw [found] at outcome
      exact .refused (missed.mp found) outcome
  | some index =>
      rw [found] at outcome
      refine .served _ _ ?_ ?_ outcome
      · intro short
        rw [missed.mpr short] at found
        cases found
      · have vacant := PagePool.findFree_vacant found positive
        exact Nat.lt_of_lt_of_le (holds.address_pos vacant) (above index)

theorem refuses_pages (holds : heap.Holds stock) (count : Nat) :
    Refuses (Heap.allocatePages count) heap (count = 0 ∨ heap.LacksWindow count) := by
  rcases Nat.eq_zero_or_pos count with none | positive
  · subst none
    exact .refused (Or.inl rfl) rfl
  · refine (holds.refuses_window positive (outcome_allocatePages positive heap)
      fun _ => Nat.le_refl _).congr rfl ?_
    exact (or_iff_right (Nat.ne_of_gt positive)).symm

theorem refuses_alignedPages (holds : heap.Holds stock) (count alignment : Nat) :
    Refuses (Heap.allocateAlignedPages count alignment) heap
      (heap.LacksAligned count alignment) := by
  by_cases formed : alignment = 0 ∨ alignment.isPowerOfTwo
  swap
  · -- A malformed alignment stops the request, whatever it asks for.
    have odd : (alignment != 0 && 1 <<< alignment.log2 != alignment) = true := by
      simpa [shift_log2_iff] using formed
    refine .stopped (.alignmentNotPowerOfTwo alignment) heap (fun lacks => formed lacks.1) ?_
    simp only [Heap.allocateAlignedPages, Step.outcome_bind, Step.outcome_get, if_pos odd,
      Step.outcome_fail]
  have even : ¬ (alignment != 0 && 1 <<< alignment.log2 != alignment) = true := by
    simpa [shift_log2_iff, or_iff_not_imp_left] using formed
  rcases Nat.eq_zero_or_pos count with none | positive
  · refine .refused ⟨formed, Or.inl none⟩ ?_
    simp only [Heap.allocateAlignedPages, Step.outcome_bind, Step.outcome_get, if_neg even,
      if_pos none, Step.outcome_pure]
  by_cases small : alignment ≤ Page.size
  · have plain : (Heap.allocateAlignedPages count alignment).outcome heap =
        (Heap.allocatePages count).outcome heap := by
      simp only [Heap.allocateAlignedPages, Step.outcome_bind, Step.outcome_get, if_neg even,
        if_neg (Nat.ne_of_gt positive), if_pos small]
    refine (holds.refuses_pages count).congr plain ?_
    simp [LacksAligned, formed, small, Nat.not_lt_of_le small]
  have large : Page.size < alignment := Nat.lt_of_not_le small
  by_cases wide : UInt64.size ≤ count + Page.spanning alignment
  · refine .stopped (.alignmentOverflow count alignment) heap ?_ ?_
    · rintro ⟨_, none | ⟨narrow, _⟩ | ⟨_, fits, _⟩⟩ <;> omega
    · simp only [Heap.allocateAlignedPages, Step.outcome_bind, Step.outcome_get, if_neg even,
        if_neg (Nat.ne_of_gt positive), if_neg small, if_pos wide, Step.outcome_fail]
  have power : 1 <<< alignment.log2 = alignment :=
    shift_log2_iff.mpr (formed.resolve_left (Nat.ne_of_gt (Nat.zero_lt_of_lt large)))
  have outcome := outcome_allocateAlignedPages holds.shape power large positive
    (Nat.lt_of_not_le wide)
  refine (holds.refuses_window (Nat.add_pos_left positive _) outcome fun _ =>
    le_alignUp _ (Nat.zero_lt_of_lt large)).congr rfl ?_
  simp [LacksAligned, formed, small, large, Nat.ne_of_gt positive, Nat.lt_of_not_le wide]

theorem refuses_bytes (holds : heap.Holds stock) (bytes : Nat) :
    Refuses (Heap.allocateBytes bytes) heap (heap.LacksBytes bytes) := by
  have limit : BlockHeader.largestBlock < UInt64.size := by decide
  rcases Nat.lt_or_ge BlockHeader.largestBlock (bytes + BlockHeader.bytes) with large | small
  · by_cases wide : UInt64.size ≤ bytes + BlockHeader.bytes
    · refine .refused (Or.inl wide) ?_
      rw [Heap.allocateBytes, if_pos wide, Step.outcome_pure]
    · have fits := Nat.lt_of_not_le wide
      refine (holds.refuses_window (Page.spanning_pos (Nat.zero_lt_of_lt large))
        (outcome_allocateBytes_large large fits) fun _ => Nat.le_add_right _ _).congr rfl ?_
      simp [LacksBytes, wide, large, Nat.not_le_of_lt large]
  · have listed := holds.firstFree_eq_zero_iff (SizeClass.holding (bytes + BlockHeader.bytes))
    cases chain : stock.chains (SizeClass.holding (bytes + BlockHeader.bytes)) with
    | cons block rest =>
        refine .served _ _ ?_ (Nat.add_pos_right _ (by decide))
          (holds.outcome_allocateBytes_listed small rfl chain)
        rintro (wide | ⟨large, _⟩ | ⟨_, empty, _⟩)
        · omega
        · omega
        · rw [listed, chain] at empty
          cases empty
    | nil =>
        refine (holds.refuses_window Nat.one_pos
          (holds.outcome_allocateBytes_unlisted small rfl chain)
          fun _ => Nat.le_add_right _ _).congr rfl ?_
        simp [LacksBytes, small, listed.mpr chain, Nat.not_lt_of_le small,
          Nat.not_le_of_lt (Nat.lt_of_le_of_lt small limit)]

end Holds

end Heap

namespace ServiceCall

def category? : ServiceCall → Option MemoryCategory
  | allocatePages category _ | allocateAlignedPages category _ _ | allocatePool category _
  | allocateZeroPool category _ | allocateCopyPool category _
  | reallocatePool category _ _ _ => some category
  | freePages _ _ | freePool _ | write _ _ => none

def Lacking (heap : Heap) : ServiceCall → Prop
  | allocatePages _ count => count = 0 ∨ heap.LacksWindow count
  | allocateAlignedPages _ count alignment => heap.LacksAligned count alignment
  | allocatePool _ bytes | allocateZeroPool _ bytes => heap.LacksBytes bytes
  | allocateCopyPool _ source => heap.LacksBytes source.length
  | reallocatePool _ _ newSize _ => heap.LacksBytes newSize
  | freePages _ _ | freePool _ | write _ _ => False

theorem refuses {heap : Heap} {stock : Stock} (holds : heap.Holds stock) {call : ServiceCall}
    {category : MemoryCategory} (asks : call.category? = some category) :
    Heap.Refuses call.step heap (category.isBacked = false ∨ call.Lacking heap) := by
  have pool (category : MemoryCategory) (bytes : Nat) :
      Heap.Refuses (MemoryServices.allocatePool category bytes) heap
        (category.isBacked = false ∨ heap.LacksBytes bytes) :=
    (holds.refuses_bytes bytes).backed category
  have zeroed (category : MemoryCategory) (bytes : Nat) :
      Heap.Refuses (MemoryServices.allocateZeroPool category bytes) heap
        (category.isBacked = false ∨ heap.LacksBytes bytes) :=
    (pool category bytes).filled _ (MemoryServices.outcome_allocateZeroPool category bytes heap)
  cases call with
  | allocatePages category count =>
      cases asks
      exact (holds.refuses_pages count).backed category
  | allocateAlignedPages category count alignment =>
      cases asks
      exact (holds.refuses_alignedPages count alignment).backed category
  | allocatePool category bytes =>
      cases asks
      exact pool category bytes
  | allocateZeroPool category bytes =>
      cases asks
      exact zeroed category bytes
  | allocateCopyPool category source =>
      cases asks
      exact (pool category source.length).filled _
        (MemoryServices.outcome_allocateCopyPool category source heap)
  | reallocatePool category oldSize newSize old =>
      cases asks
      exact (zeroed category newSize).moved
  | freePages _ _ => cases asks
  | freePool _ => cases asks
  | write _ _ => cases asks

end ServiceCall

variable {region : AddressRange} {memory : Memory} {past : ServiceHistory} {heap : Heap}

/-- A request for memory that gets none has changed nothing, neither bitmaps nor counts nor free
lists nor any byte of memory. It gets none exactly if its category is not backed or what it needs
is missing, and no address handed out is zero. -/
theorem refused_request_changes_nothing (run : ServiceRun region memory past heap)
    {call : ServiceCall} {category : MemoryCategory} (asks : call.category? = some category) :
    (∀ later, call.step.outcome heap = (.ok none, later) → later = heap) ∧
    ((call.step.outcome heap).1 = .ok none ↔
      category.isBacked = false ∨ call.Lacking heap) ∧
    (category = .reserved → call.step.outcome heap = (.ok none, heap)) ∧
    ∀ address, (call.step.outcome heap).1 = .ok (some address) → 0 < address := by
  obtain ⟨stock, holds, _⟩ := run.holds
  have refuses := ServiceCall.refuses holds asks
  refine ⟨?_, refuses.iff, ?_, ?_⟩
  · intro later denied
    have same := refuses.unchanged (congrArg Prod.fst denied)
    rw [denied] at same
    exact congrArg Prod.snd same
  · rintro rfl
    exact refuses.unchanged (refuses.iff.mpr (Or.inl rfl))
  · exact fun address => refuses.address_pos

/-- With one page left, a large buffer is refused. A small one takes the page, and then a buffer of
another class is refused, and with it a move to that class. -/
theorem refused_requests_on_last_page :
    let past : ServiceHistory := [
      (.allocatePool .runtime 1500, .ok (some 0x11010)),
      (.allocateCopyPool .runtime (List.replicate 5000 1), .ok none),
      (.allocatePages .runtime 6, .ok (some 0x12000))]
    ∃ heap, ServiceRun ⟨0x10000, 0x8000⟩ Memory.zeroed past heap ∧
      past.live = [.pool 0x11010 1500, .pages 0x12000 6] ∧
      (ServiceCall.reallocatePool .runtime 1500 200 (some 0x11010)).step.outcome heap =
        (.ok none, heap) ∧
      (ServiceCall.allocateAlignedPages .reserved 0 3).step.outcome heap = (.ok none, heap) := by
  intro past
  obtain ⟨heap, run, unmoved⟩ : ∃ heap, ServiceRun ⟨0x10000, 0x8000⟩ Memory.zeroed past heap ∧
      ((ServiceCall.reallocatePool .runtime 1500 200 (some 0x11010)).step.outcome heap).1 =
        .ok none :=
    ⟨_, .call (.call (.call .start trivial (by decide +kernel)) trivial (by decide +kernel))
      trivial (by decide +kernel), by decide +kernel⟩
  have moves : (ServiceCall.reallocatePool .runtime 1500 200 (some 0x11010)).category? =
      some .runtime := rfl
  have aligns : (ServiceCall.allocateAlignedPages .reserved 0 3).category? = some .reserved := rfl
  obtain ⟨same, _⟩ := refused_request_changes_nothing run moves
  obtain ⟨_, _, reserved, _⟩ := refused_request_changes_nothing run aligns
  exact ⟨heap, run, by decide, Prod.ext unmoved (same _ (Prod.ext unmoved rfl)), reserved rfl⟩

end PartitionBoot
