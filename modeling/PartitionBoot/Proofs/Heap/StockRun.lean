import PartitionBoot.Proofs.Heap.ServiceHistory
import PartitionBoot.Proofs.Heap.StockTurns

/-!
The stock along a history. Each service call turns it over in one of four ways, and from a new heap
on a history of permitted calls has a stock that describes the heap it leads to.
-/

namespace PartitionBoot

namespace Heap

/-- What a call does to a heap and its stock, with the buffer that it hands out and the pool pointer
that it takes back. -/
inductive Turns (heap : Heap) (stock : Stock) : Option Buffer → Option Nat → Heap → Stock → Prop
  | kept {later : Heap} : later.Holds stock → later.Quiet heap stock.grants →
      Turns heap stock none none later stock
  | handedOut {buffer : Buffer} {later : Heap} {next : Stock} :
      heap.HandsOut stock buffer later next → Turns heap stock (some buffer) none later next
  | takenBack {buffer : Buffer} {later : Heap} {next : Stock} :
      heap.TakesBack stock buffer later next → Turns heap stock none buffer.pointer? later next
  | moved {buffer old : Buffer} {middle later : Heap} {between next : Stock} :
      heap.HandsOut stock buffer middle between → middle.TakesBack between old later next →
      Turns heap stock (some buffer) old.pointer? later next

def Yields (request : Step Heap HeapFault (Option Nat)) (heap : Heap) (stock : Stock)
    (buffer : Nat → Buffer) : Prop :=
  request.outcome heap = (.ok none, heap) ∨
    ∃ address later next, request.outcome heap = (.ok (some address), later) ∧
      heap.HandsOut stock (buffer address) later next

variable {heap later : Heap} {stock next : Stock} {given : Option Buffer} {taken : Option Nat}

theorem Turns.still (holds : heap.Holds stock) : heap.Turns stock none none heap stock :=
  .kept holds (Quiet.refl _ _)

theorem Turns.holds (turns : heap.Turns stock given taken later next) : later.Holds next := by
  cases turns with
  | kept holds _ => exact holds
  | handedOut handsOut => exact handsOut.holds
  | takenBack takesBack => exact takesBack.holds
  | moved _ takesBack => exact takesBack.holds

theorem Turns.carved_eq (turns : heap.Turns stock none taken later next) :
    next.carved = stock.carved := by
  cases turns with
  | kept _ _ => rfl
  | takenBack takesBack => exact takesBack.returns.carved_eq

theorem Turns.handsOut {buffer : Buffer}
    (turns : heap.Turns stock (some buffer) taken later next) :
    ∃ middle between, heap.HandsOut stock buffer middle between ∧
      next.carved = between.carved := by
  cases turns with
  | handedOut handsOut => exact ⟨_, _, handsOut, rfl⟩
  | moved handsOut takesBack => exact ⟨_, _, handsOut, takesBack.returns.carved_eq⟩

theorem yields_backed {request : Step Heap HeapFault (Option Nat)} {buffer : Nat → Buffer}
    (yields : Yields request heap stock buffer) (category : MemoryCategory) :
    Yields (MemoryServices.backed category request) heap stock buffer := by
  simp only [MemoryServices.backed]
  split
  · exact yields
  · exact Or.inl rfl

namespace Holds

theorem agrees_contents {address bytes : Nat} {contents : List UInt8}
    (fits : contents.length ≤ bytes) (memory : Memory) (span : Span)
    (apart : (Buffer.pool address bytes).span.Apart span) :
    (memory.writeBytes address contents).Agrees memory span.start span.stop := by
  refine Memory.agrees_writeBytes ?_
  simp only [Span.Apart, Buffer.span] at apart
  omega

theorem yields_pages (holds : heap.Holds stock) (count : Nat) :
    Yields (Heap.allocatePages count) heap stock fun base => .pages base count := by
  rcases allocatePages_cases count heap with refused | ⟨index, vacant, granted⟩
  · exact Or.inl refused
  · exact Or.inr ⟨_, _, _, granted, holds.handsOut_pages vacant⟩

theorem yields_pool (holds : heap.Holds stock) (category : MemoryCategory) (bytes : Nat) :
    Yields (MemoryServices.allocatePool category bytes) heap stock fun address =>
      .pool address bytes :=
  yields_backed (holds.handsOut_bytes bytes) category

theorem yields_zeroPool (holds : heap.Holds stock) (category : MemoryCategory) (bytes : Nat) :
    Yields (MemoryServices.allocateZeroPool category bytes) heap stock fun address =>
      .pool address bytes := by
  simp only [Yields, MemoryServices.outcome_allocateZeroPool]
  rcases holds.yields_pool category bytes with refused | ⟨address, later, next, done, handsOut⟩
  · left
    rw [refused]
  · right
    rw [done]
    exact ⟨address, _, next, rfl, handsOut.filled (agrees_contents (by simp) later.memory)⟩

theorem yields_copyPool (holds : heap.Holds stock) (category : MemoryCategory)
    (source : List UInt8) :
    Yields (MemoryServices.allocateCopyPool category source) heap stock fun address =>
      .pool address source.length := by
  simp only [Yields, MemoryServices.outcome_allocateCopyPool]
  rcases holds.yields_pool category source.length with
    refused | ⟨address, later, next, done, handsOut⟩
  · left
    rw [refused]
  · right
    rw [done]
    exact ⟨address, _, next, rfl,
      handsOut.filled (agrees_contents (Nat.le_refl _) later.memory)⟩

theorem takesBack_bytes (holds : heap.Holds stock) {address bytes : Nat} {rest : List Buffer}
    (first : stock.live = .pool address bytes :: rest) :
    ∃ later next, (Heap.freeBytes address).outcome heap = (.ok (), later) ∧
      heap.TakesBack stock (.pool address bytes) later next ∧ next.live = rest := by
  rw [holds.outcome_freeBytes (first ▸ List.mem_cons_self)]
  rcases Nat.lt_or_ge BlockHeader.largestBlock (bytes + BlockHeader.bytes) with large | small
  · obtain ⟨later, freed, takesBack⟩ := holds.takesBack_large first large
    rw [if_pos large]
    exact ⟨later, _, freed, takesBack, rfl⟩
  · rw [if_neg (Nat.not_lt_of_le small)]
    exact ⟨_, _, rfl, holds.takesBack_listed first small rfl, rfl⟩

end Holds

end Heap

namespace ServiceCall

def handedOut? : ServiceCall → Except HeapFault (Option Nat) → Option Buffer
  | allocatePages _ count, .ok (some base) => some (.pages base count)
  | allocateAlignedPages _ count _, .ok (some base) => some (.pages base count)
  | allocatePool _ bytes, .ok (some address) => some (.pool address bytes)
  | allocateZeroPool _ bytes, .ok (some address) => some (.pool address bytes)
  | allocateCopyPool _ source, .ok (some address) => some (.pool address source.length)
  | reallocatePool _ _ newSize _, .ok (some address) => some (.pool address newSize)
  | _, _ => none

def takenBack? : ServiceCall → Except HeapFault (Option Nat) → Option Nat
  | freePool address, .ok _ => some address
  | reallocatePool _ _ _ (some old), .ok (some _) => some old
  | _, _ => none

structure Moves (call : ServiceCall) (result : Except HeapFault (Option Nat)) (heap : Heap)
    (stock : Stock) (later : Heap) (next : Stock) : Prop where
  turns : heap.Turns stock (call.handedOut? result) (call.takenBack? result) later next
  live : next.live = call.liveAfter stock.live result
  faults : ∀ fault, result = .error fault → fault.ofAlignment = true

variable {heap later : Heap} {stock next : Stock} {call : ServiceCall}

theorem Moves.answered {answer : Option Nat}
    (turns : heap.Turns stock (call.handedOut? (.ok answer)) (call.takenBack? (.ok answer)) later
      next)
    (live : next.live = call.liveAfter stock.live (.ok answer)) :
    call.Moves (.ok answer) heap stock later next :=
  ⟨turns, live, fun _ impossible => by cases impossible⟩

theorem moves_of_yields (holds : heap.Holds stock) {buffer : Nat → Buffer}
    (yields : Heap.Yields call.step heap stock buffer)
    (refused : call.handedOut? (.ok none) = none ∧ call.takenBack? (.ok none) = none ∧
      call.liveAfter stock.live (.ok none) = stock.live)
    (given : ∀ address, call.handedOut? (.ok (some address)) = some (buffer address) ∧
      call.takenBack? (.ok (some address)) = none ∧
      call.liveAfter stock.live (.ok (some address)) = buffer address :: stock.live) :
    ∃ result later next, call.step.outcome heap = (result, later) ∧
      call.Moves result heap stock later next := by
  rcases yields with none | ⟨address, later, next, done, handsOut⟩
  · refine ⟨_, _, stock, none, .answered ?_ refused.2.2.symm⟩
    rw [refused.1, refused.2.1]
    exact .still holds
  · refine ⟨_, _, next, done, .answered ?_ (handsOut.issues.live.trans (given address).2.2.symm)⟩
    rw [(given address).1, (given address).2.1]
    exact .handedOut handsOut

theorem moves_alignedPages (holds : heap.Holds stock) (category : MemoryCategory)
    (count alignment : Nat) :
    ∃ result later next,
      (allocateAlignedPages category count alignment).step.outcome heap = (result, later) ∧
      (allocateAlignedPages category count alignment).Moves result heap stock later next := by
  simp only [step, MemoryServices.allocateAlignedPages, MemoryServices.backed]
  split
  · rcases Heap.allocateAlignedPages_cases holds.shape count alignment with
      refused | ⟨fault, stopped⟩ | ⟨index, vacant, granted⟩
    · exact ⟨_, _, stock, refused, .answered (.still holds) rfl⟩
    · refine ⟨_, _, stock, stopped, .still holds, rfl, ?_⟩
      intro other same
      cases same
      exact Heap.allocateAlignedPages_fault stopped
    · exact ⟨_, _, _, granted, .answered (.handedOut (holds.handsOut_pages vacant)) rfl⟩
  · exact ⟨_, _, stock, rfl, .answered (.still holds) rfl⟩

theorem moves_reallocate_some (holds : heap.Holds stock) {category : MemoryCategory}
    {oldSize newSize old bytes address : Nat} {middle : Heap} {between : Stock}
    (member : .pool old bytes ∈ stock.live) (small : oldSize ≤ bytes)
    (done : (MemoryServices.allocateZeroPool category newSize).outcome heap =
      (.ok (some address), middle))
    (handsOut : heap.HandsOut stock (.pool address newSize) middle between) :
    ∃ later next,
      (reallocatePool category oldSize newSize (some old)).step.outcome heap =
        (.ok (some address), later) ∧
      (reallocatePool category oldSize newSize (some old)).Moves (.ok (some address)) heap stock
        later next := by
  have live := handsOut.issues.live
  have permuted := perm_dropPool_of_holds holds member
  have inOld : .pool old bytes ∈ between.live := by
    rw [live]
    exact List.mem_cons_of_mem _ member
  have ends : ¬ UInt64.size ≤ old + oldSize := by
    have within := (handsOut.holds.span_within_extent inOld).trans
      (handsOut.holds.extent_within inOld).1
    have bounded := handsOut.holds.shape.bounded
    simp only [Span.Within, Buffer.span, PagePool.span] at within
    omega
  simp only [step, MemoryServices.outcome_reallocatePool_some, done, if_neg ends]
  generalize contents : middle.memory.readBytes old (min oldSize newSize) = copied
  have fits : copied.length ≤ newSize := by
    rw [← contents, Memory.length_readBytes]
    exact Nat.min_le_right _ _
  have copies := handsOut.filled (Heap.Holds.agrees_contents fits middle.memory)
  have swapped : between.live.Perm
      (.pool old bytes :: .pool address newSize :: dropPool stock.live old) := by
    rw [live]
    exact (permuted.cons _).trans (List.Perm.swap _ _ _)
  obtain ⟨last, final, freed, takesBack, finalLive⟩ :=
    (copies.holds.perm swapped).takesBack_bytes rfl
  rw [freed]
  exact ⟨last, final, rfl, .answered (.moved copies (takesBack.of_perm swapped)) finalLive⟩

theorem moves_reallocate (holds : heap.Holds stock) (category : MemoryCategory)
    {oldSize newSize old bytes : Nat} (member : .pool old bytes ∈ stock.live)
    (small : oldSize ≤ bytes) :
    ∃ answer later next,
      (reallocatePool category oldSize newSize (some old)).step.outcome heap =
        (.ok answer, later) ∧
      (reallocatePool category oldSize newSize (some old)).Moves (.ok answer) heap stock later
        next := by
  rcases holds.yields_zeroPool category newSize with
    refused | ⟨address, middle, between, done, handsOut⟩
  · refine ⟨none, heap, stock, ?_, .answered (.still holds) rfl⟩
    rw [step, MemoryServices.outcome_reallocatePool_some, refused]
  · exact ⟨some address, moves_reallocate_some holds member small done handsOut⟩

/-- A permitted call turns the stock over in one of the four ways. -/
theorem moves (holds : heap.Holds stock) (permitted : call.Permitted stock.live) :
    ∃ result later next, call.step.outcome heap = (result, later) ∧
      call.Moves result heap stock later next := by
  cases call with
  | allocatePages category count =>
      exact moves_of_yields holds (Heap.yields_backed (holds.yields_pages count) category)
        ⟨rfl, rfl, rfl⟩ fun _ => ⟨rfl, rfl, rfl⟩
  | allocateAlignedPages category count alignment =>
      exact moves_alignedPages holds category count alignment
  | allocatePool category bytes =>
      exact moves_of_yields holds (holds.yields_pool category bytes) ⟨rfl, rfl, rfl⟩
        fun _ => ⟨rfl, rfl, rfl⟩
  | allocateZeroPool category bytes =>
      exact moves_of_yields holds (holds.yields_zeroPool category bytes) ⟨rfl, rfl, rfl⟩
        fun _ => ⟨rfl, rfl, rfl⟩
  | allocateCopyPool category source =>
      exact moves_of_yields holds (holds.yields_copyPool category source) ⟨rfl, rfl, rfl⟩
        fun _ => ⟨rfl, rfl, rfl⟩
  | reallocatePool category oldSize newSize old =>
      cases old with
      | none =>
          have yields : Heap.Yields (reallocatePool category oldSize newSize none).step heap stock
              fun address => .pool address newSize := by
            simp only [Heap.Yields, step, MemoryServices.outcome_reallocatePool_none]
            exact holds.yields_zeroPool category newSize
          exact moves_of_yields holds yields ⟨rfl, rfl, rfl⟩ fun _ => ⟨rfl, rfl, rfl⟩
      | some old =>
          obtain ⟨bytes, member, small⟩ := permitted
          obtain ⟨answer, later, next, done, moves⟩ := moves_reallocate holds category member small
          exact ⟨_, later, next, done, moves⟩
  | freePages base count =>
      have permuted := List.perm_cons_erase permitted
      obtain ⟨later, freed, takesBack⟩ := (holds.perm permuted).takesBack_pages rfl
      refine ⟨.ok none, later, _, ?_, .answered (.takenBack (takesBack.of_perm permuted)) rfl⟩
      simp only [step, MemoryServices.freePages, Step.outcome_bind_ok freed, Step.outcome_pure]
  | freePool address =>
      obtain ⟨bytes, member⟩ := permitted
      have permuted := perm_dropPool_of_holds holds member
      obtain ⟨later, next, freed, takesBack, live⟩ := (holds.perm permuted).takesBack_bytes rfl
      refine ⟨.ok none, later, next, ?_, .answered (.takenBack (takesBack.of_perm permuted)) live⟩
      simp only [step, MemoryServices.freePool, Step.outcome_bind_ok freed, Step.outcome_pure]
  | write address bytes =>
      obtain ⟨buffer, member, inside⟩ := permitted
      have agrees : ∀ span : Span, buffer.span.Apart span →
          (heap.memory.writeBytes address bytes).Agrees heap.memory span.start span.stop := by
        intro span apart
        have away := apart.mono_left inside
        refine Memory.agrees_writeBytes ?_
        simp only [Span.Apart] at away
        omega
      exact ⟨.ok none, _, stock, rfl,
        .answered (.kept (holds.stored member agrees) (holds.quiet_stored member agrees)) rfl⟩

end ServiceCall

def ServiceHistory.issued : ServiceHistory → List Buffer
  | [] => []
  | (call, result) :: past => (call.handedOut? result).toList ++ ServiceHistory.issued past

/-- A history of permitted calls with the heap and the stock that it leads to. -/
inductive StockRun (region : AddressRange) (memory : Memory) :
    ServiceHistory → Heap → Stock → Prop
  | start : StockRun region memory [] (Heap.create region memory) ⟨[], [], fun _ => []⟩
  | call {past heap stock call result later next} : StockRun region memory past heap stock →
      call.Moves result heap stock later next →
      StockRun region memory ((call, result) :: past) later next

variable {region : AddressRange} {memory : Memory} {past : ServiceHistory} {heap : Heap}
  {stock : Stock}

theorem StockRun.holds (run : StockRun region memory past heap stock) : heap.Holds stock := by
  cases run with
  | start => exact Heap.Holds.create region memory
  | call _ moves => exact moves.turns.holds

theorem StockRun.live (run : StockRun region memory past heap stock) : stock.live = past.live := by
  induction run with
  | start => rfl
  | call _ moves ih =>
      rw [moves.live, ih]
      rfl

theorem ServiceRun.stockRun (run : ServiceRun region memory past heap) :
    ∃ stock, StockRun region memory past heap stock := by
  induction run with
  | start => exact ⟨_, .start⟩
  | call _ permitted answered ih =>
      obtain ⟨stock, stocked⟩ := ih
      rw [← stocked.live] at permitted
      obtain ⟨result, later, next, done, moves⟩ := ServiceCall.moves stocked.holds permitted
      rw [done] at answered
      subst answered
      rw [done]
      exact ⟨next, .call stocked moves⟩

end PartitionBoot
