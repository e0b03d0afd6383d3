import PartitionBoot.Proofs.Heap.PageBalance

/-!
When a heap runs out, and what it gets back. A small request is refused only where neither a block
of its class nor a page is free. Buffers may be given back in any order, and then all pages are free
again but those that the peaks account for.
-/

namespace PartitionBoot

namespace ServiceCall

def poolRequest? : ServiceCall → Option (MemoryCategory × Nat)
  | allocatePool category bytes => some (category, bytes)
  | allocateZeroPool category bytes => some (category, bytes)
  | allocateCopyPool category source => some (category, source.length)
  | reallocatePool category _ newSize _ => some (category, newSize)
  | _ => none

end ServiceCall

def Buffer.givenBack : Buffer → ServiceCall × Except HeapFault (Option Nat)
  | pages base count => (.freePages base count, .ok none)
  | pool pointer _ => (.freePool pointer, .ok none)

variable {region : AddressRange} {memory : Memory} {past : ServiceHistory} {heap later : Heap}
  {stock next : Stock} {given : Option Buffer} {taken : Option Nat}

namespace Heap

def Serves (heap : Heap) (request : Step Heap HeapFault (Option Nat)) : Prop :=
  ∃ address, (request.outcome heap).1 = .ok (some address)

theorem not_serves {request : Step Heap HeapFault (Option Nat)}
    (refused : request.outcome heap = (.ok none, later)) : ¬ heap.Serves request := by
  rintro ⟨address, served⟩
  rw [refused] at served
  cases served

theorem serves_of {request : Step Heap HeapFault (Option Nat)} {address : Nat}
    (served : request.outcome heap = (.ok (some address), later)) : heap.Serves request :=
  ⟨address, by rw [served]⟩

namespace Holds

theorem firstFree_eq_zero_iff (holds : heap.Holds stock) (sizeClass : SizeClass) :
    heap.firstFree sizeClass = 0 ↔ stock.chains sizeClass = [] := by
  have linked := holds.linked sizeClass
  cases chain : stock.chains sizeClass with
  | nil =>
      rw [chain] at linked
      exact ⟨fun _ => rfl, fun _ => linked⟩
  | cons block rest =>
      rw [chain] at linked
      rw [linked.1]
      exact ⟨fun empty => absurd empty linked.2.1, fun empty => by cases empty⟩

theorem serves_small_iff (holds : heap.Holds stock) {bytes : Nat}
    (small : bytes + BlockHeader.bytes ≤ BlockHeader.largestBlock) :
    heap.Serves (Heap.allocateBytes bytes) ↔
      heap.firstFree (SizeClass.holding (bytes + BlockHeader.bytes)) ≠ 0 ∨
        0 < MemoryServices.freePageCount heap := by
  have listed := holds.firstFree_eq_zero_iff (SizeClass.holding (bytes + BlockHeader.bytes))
  cases chain : stock.chains (SizeClass.holding (bytes + BlockHeader.bytes)) with
  | cons block rest =>
      have served := holds.outcome_allocateBytes_listed small rfl chain
      refine ⟨fun _ => Or.inl fun empty => ?_, fun _ => serves_of served⟩
      rw [listed, chain] at empty
      cases empty
  | nil =>
      have served := holds.outcome_allocateBytes_unlisted small rfl chain
      have missed := holds.records.findFree_one holds.shape
      cases found : heap.pages.findFree heap.memory 1 with
      | none =>
          rw [found] at served
          refine ⟨fun serves => absurd serves (not_serves served), ?_⟩
          rintro (nonempty | available)
          · exact absurd (listed.mpr chain) nonempty
          · exact absurd (missed.mp found) (Nat.ne_of_gt available)
      | some index =>
          rw [found] at served
          refine ⟨fun _ => Or.inr (Nat.pos_of_ne_zero fun empty => ?_), fun _ => serves_of served⟩
          rw [missed.mpr empty] at found
          cases found

theorem serves_poolRequest_iff (holds : heap.Holds stock) {call : ServiceCall}
    {category : MemoryCategory} {bytes : Nat} (permitted : call.Permitted stock.live)
    (asks : call.poolRequest? = some (category, bytes)) :
    heap.Serves call.step ↔ heap.Serves (MemoryServices.allocatePool category bytes) := by
  have zeroed {category : MemoryCategory} {bytes : Nat} :
      heap.Serves (MemoryServices.allocateZeroPool category bytes) ↔
        heap.Serves (MemoryServices.allocatePool category bytes) := by
    rw [Serves, Serves, MemoryServices.outcome_allocateZeroPool]
    rcases (MemoryServices.allocatePool category bytes).outcome heap with
      ⟨fault | none | address, later⟩ <;> simp
  cases call with
  | allocatePool _ _ =>
      cases asks
      exact Iff.rfl
  | allocateZeroPool _ _ =>
      cases asks
      exact zeroed
  | allocateCopyPool category source =>
      cases asks
      rw [ServiceCall.step, Serves, Serves, MemoryServices.outcome_allocateCopyPool]
      rcases (MemoryServices.allocatePool category source.length).outcome heap with
        ⟨fault | none | address, later⟩ <;> simp
  | reallocatePool category oldSize newSize old =>
      cases asks
      rw [← zeroed]
      cases old with
      | none => rw [ServiceCall.step, Serves, Serves, MemoryServices.outcome_reallocatePool_none]
      | some old =>
          obtain ⟨size, member, small⟩ := permitted
          rcases holds.yields_zeroPool category bytes with
            refused | ⟨address, middle, between, done, handsOut⟩
          · have unmoved : (ServiceCall.reallocatePool category oldSize bytes
                (some old)).step.outcome heap = (.ok none, heap) := by
              rw [ServiceCall.step, MemoryServices.outcome_reallocatePool_some, refused]
            exact iff_of_false (not_serves unmoved) (not_serves refused)
          · obtain ⟨_, _, moved, _⟩ :=
              ServiceCall.moves_reallocate_some holds member small done handsOut
            exact iff_of_true (serves_of moved) (serves_of done)
  | allocatePages _ _ => cases asks
  | allocateAlignedPages _ _ _ => cases asks
  | freePages _ _ => cases asks
  | freePool _ => cases asks
  | write _ _ => cases asks

end Holds

theorem serves_backed_iff (category : MemoryCategory)
    (request : Step Heap HeapFault (Option Nat)) :
    heap.Serves (MemoryServices.backed category request) ↔
      category.isBacked = true ∧ heap.Serves request := by
  rw [MemoryServices.backed]
  by_cases backed : category.isBacked = true
  · rw [if_pos backed]
    exact (and_iff_right backed).symm
  · rw [if_neg backed]
    exact iff_of_false (not_serves (Step.outcome_pure none heap)) fun both => backed both.1

theorem Turns.total (turns : heap.Turns stock given taken later next) :
    later.pages.total = heap.pages.total := by
  cases turns with
  | kept _ quiet => rw [quiet.ground]
  | handedOut handsOut => rw [handsOut.quiet.ground]
  | takenBack takesBack => rw [takesBack.quiet.ground]
  | moved handsOut takesBack => rw [takesBack.quiet.ground, handsOut.quiet.ground]

end Heap

theorem StockRun.total (run : StockRun region memory past heap stock) :
    heap.pages.total = (Heap.create region memory).pages.total := by
  induction run with
  | start => rfl
  | call _ moves ih => rw [moves.turns.total, ih]

theorem ServiceRun.giveBack (run : ServiceRun region memory past heap) {buffer : Buffer}
    {rest : List Buffer} (held : past.live.Perm (buffer :: rest)) :
    ∃ later, ServiceRun region memory (buffer.givenBack :: past) later ∧
      (ServiceHistory.live (buffer.givenBack :: past)).Perm rest ∧
      ServiceHistory.peak (buffer.givenBack :: past) = past.peak := by
  obtain ⟨stock, stocked⟩ := run.stockRun
  have holds := stocked.holds
  have member : buffer ∈ past.live := held.mem_iff.mpr List.mem_cons_self
  have peak : (fun sizeClass : SizeClass => max (past.peak sizeClass)
      (sizeClass.blocksAmong past.live)) = past.peak := by
    rw [← stocked.live]
    exact funext fun sizeClass => Nat.max_eq_left (stocked.peaks.live sizeClass)
  cases buffer with
  | pages base count =>
      have given := member
      rw [← stocked.live] at given
      obtain ⟨later, freed, _⟩ := (holds.perm (List.perm_cons_erase given)).released rfl
      have answered : ((ServiceCall.freePages base count).step.outcome heap).1 = .ok none := by
        rw [ServiceCall.step, MemoryServices.freePages, Step.outcome_bind_ok freed,
          Step.outcome_pure]
      have left := held.erase (.pages base count)
      rw [List.erase_cons_head] at left
      exact ⟨_, .call run member answered, left, peak⟩
  | pool pointer bytes =>
      have given := member
      rw [← stocked.live] at given
      have permuted := ServiceCall.perm_dropPool_of_holds holds given
      obtain ⟨later, _, freed, _⟩ := (holds.perm permuted).freeBytes rfl
      have answered : ((ServiceCall.freePool pointer).step.outcome heap).1 = .ok none := by
        rw [ServiceCall.step, MemoryServices.freePool, Step.outcome_bind_ok freed,
          Step.outcome_pure]
      rw [stocked.live] at permuted
      exact ⟨_, .call run ⟨bytes, member⟩ answered, (permuted.symm.trans held).cons_inv, peak⟩

theorem ServiceRun.giveBackAll (run : ServiceRun region memory past heap) (order : List Buffer) :
    ∀ kept : List Buffer, past.live.Perm (order ++ kept) →
      ∃ last, ServiceRun region memory (order.map Buffer.givenBack ++ past) last ∧
        (ServiceHistory.live (order.map Buffer.givenBack ++ past)).Perm kept ∧
        ServiceHistory.peak (order.map Buffer.givenBack ++ past) = past.peak := by
  induction order with
  | nil => exact fun _ held => ⟨heap, run, held, rfl⟩
  | cons buffer rest ih =>
      intro kept held
      obtain ⟨middle, before, left, peak⟩ := ih (buffer :: kept) (held.trans List.perm_middle.symm)
      obtain ⟨last, after, none, same⟩ := before.giveBack left
      exact ⟨last, after, none, same.trans peak⟩

/-- All pages are accounted for: they are free, or they are held by clients, or they are as many as
the peaks of the classes take. So a small request is served exactly if a block of its class or a
page is free, and whoever gives back all buffers, in whatever order, finds all pages free again but
those that the peaks take. -/
theorem pages_accounted_by_peaks (run : ServiceRun region memory past heap) :
    (MemoryServices.totalPages heap = MemoryServices.freePageCount heap +
      (past.live.map Buffer.ownPages).sum +
        ∑ sizeClass : SizeClass, sizeClass.pagesFor (past.peak sizeClass)) ∧
    (∀ (call : ServiceCall) category bytes, call.Permitted past.live →
      call.poolRequest? = some (category, bytes) →
      bytes + BlockHeader.bytes ≤ BlockHeader.largestBlock →
      ((∃ address, (call.step.outcome heap).1 = .ok (some address)) ↔
        category.isBacked = true ∧
          (heap.firstFree (SizeClass.holding (bytes + BlockHeader.bytes)) ≠ 0 ∨
            0 < MemoryServices.freePageCount heap))) ∧
    ∀ order : List Buffer, past.live.Perm order →
      ∃ last, ServiceRun region memory (order.map Buffer.givenBack ++ past) last ∧
        MemoryServices.totalPages last = MemoryServices.totalPages heap ∧
        MemoryServices.totalPages heap = MemoryServices.freePageCount last +
          ∑ sizeClass : SizeClass, sizeClass.pagesFor (past.peak sizeClass) := by
  obtain ⟨stock, stocked⟩ := run.stockRun
  refine ⟨stocked.balance, ?_, ?_⟩
  · intro call category bytes permitted asks small
    rw [← stocked.live] at permitted
    refine (stocked.holds.serves_poolRequest_iff permitted asks).trans ?_
    rw [MemoryServices.allocatePool, Heap.serves_backed_iff,
      stocked.holds.serves_small_iff small]
  · intro order held
    obtain ⟨last, back, none, peak⟩ := run.giveBackAll order [] (by rwa [List.append_nil])
    obtain ⟨_, emptied⟩ := back.stockRun
    have total : MemoryServices.totalPages last = MemoryServices.totalPages heap :=
      emptied.total.trans stocked.total.symm
    have balance := emptied.balance
    rw [List.perm_nil.mp none, peak, total] at balance
    exact ⟨last, back, total, balance⟩

/-- Three blocks of a class whose pages have room for two, one of them free again, and a large
buffer. -/
theorem pages_accounted_after_third_block :
    let past : ServiceHistory := [
      (.allocatePool .runtime 3000, .ok (some 0x15010)),
      (.freePool 0x17010, .ok none),
      (.allocatePool .runtime 1500, .ok (some 0x16010)),
      (.allocatePool .runtime 1500, .ok (some 0x17810)),
      (.allocatePool .runtime 1500, .ok (some 0x17010))]
    ∃ heap last, ServiceRun ⟨0x10000, 0x8000⟩ Memory.zeroed past heap ∧
      (∃ address, ((ServiceCall.allocateZeroPool .runtime 1000).step.outcome heap).1 =
        .ok (some address)) ∧
      ServiceRun ⟨0x10000, 0x8000⟩ Memory.zeroed (past.live.map Buffer.givenBack ++ past) last ∧
      MemoryServices.totalPages heap = MemoryServices.freePageCount last +
        ∑ sizeClass : SizeClass, sizeClass.pagesFor (past.peak sizeClass) := by
  intro past
  have run : ServiceRun ⟨0x10000, 0x8000⟩ Memory.zeroed past _ :=
    .call (.call (.call (.call (.call .start trivial (by decide +kernel)) trivial
      (by decide +kernel)) trivial (by decide +kernel)) ⟨1500, by decide⟩ (by decide +kernel))
      trivial (by decide +kernel)
  obtain ⟨_, serves, returns⟩ := pages_accounted_by_peaks run
  obtain ⟨last, back, _, balance⟩ := returns past.live (List.Perm.refl _)
  refine ⟨_, last, run, ?_, back, balance⟩
  exact (serves (.allocateZeroPool .runtime 1000) .runtime 1000 trivial rfl (by decide)).mpr
    ⟨rfl, Or.inr (by decide +kernel)⟩

/-- A request for reserved memory is refused on a heap whose pages are all free. -/
theorem reserved_request_refused :
    let heap := Heap.create ⟨0x10000, 0x8000⟩ Memory.zeroed
    ServiceRun ⟨0x10000, 0x8000⟩ Memory.zeroed [] heap ∧
      100 + BlockHeader.bytes ≤ BlockHeader.largestBlock ∧
      ¬ ((∃ address, ((ServiceCall.allocatePool .reserved 100).step.outcome heap).1 =
          .ok (some address)) ↔
        heap.firstFree (SizeClass.holding (100 + BlockHeader.bytes)) ≠ 0 ∨
          0 < MemoryServices.freePageCount heap) := by
  intro heap
  refine ⟨.start, by decide, fun served => ?_⟩
  obtain ⟨address, impossible⟩ := served.mpr (Or.inr (by decide +kernel))
  cases impossible

end PartitionBoot
