import Mathlib.Data.List.Nodup
import PartitionBoot.Proofs.Heap.ServiceSteps

/-!
Histories of service calls and client writes. As long as clients give back what they hold and write
inside it, what they hold stays inside the heap, apart from each other and apart from all that the
heap keeps for itself.
-/

namespace PartitionBoot

inductive ServiceCall where
  | allocatePages (category : MemoryCategory) (count : Nat)
  | allocateAlignedPages (category : MemoryCategory) (count alignment : Nat)
  | allocatePool (category : MemoryCategory) (bytes : Nat)
  | allocateZeroPool (category : MemoryCategory) (bytes : Nat)
  | allocateCopyPool (category : MemoryCategory) (source : List UInt8)
  | reallocatePool (category : MemoryCategory) (oldSize newSize : Nat) (old : Option Nat)
  | freePages (base count : Nat)
  | freePool (address : Nat)
  | write (address : Nat) (bytes : List UInt8)

namespace ServiceCall

def step : ServiceCall → Step Heap HeapFault (Option Nat)
  | allocatePages category count => MemoryServices.allocatePages category count
  | allocateAlignedPages category count alignment =>
      MemoryServices.allocateAlignedPages category count alignment
  | allocatePool category bytes => MemoryServices.allocatePool category bytes
  | allocateZeroPool category bytes => MemoryServices.allocateZeroPool category bytes
  | allocateCopyPool category source => MemoryServices.allocateCopyPool category source
  | reallocatePool category oldSize newSize old =>
      MemoryServices.reallocatePool category oldSize newSize old
  | freePages base count => do
      MemoryServices.freePages base count
      pure none
  | freePool address => do
      MemoryServices.freePool address
      pure none
  | write address bytes => do
      modify fun heap => { heap with memory := heap.memory.writeBytes address bytes }
      pure none

/-- Clients give back and reallocate what they hold, and write inside of it. -/
def Permitted (live : List Buffer) : ServiceCall → Prop
  | freePages base count => .pages base count ∈ live
  | freePool address => ∃ bytes, .pool address bytes ∈ live
  | reallocatePool _ oldSize _ (some old) => ∃ bytes, .pool old bytes ∈ live ∧ oldSize ≤ bytes
  | write address bytes =>
      ∃ buffer ∈ live, Span.Within ⟨address, address + bytes.length⟩ buffer.span
  | _ => True

def dropPool (live : List Buffer) (address : Nat) : List Buffer :=
  live.eraseP fun buffer => buffer.pointer? = some address

def liveAfter (live : List Buffer) : ServiceCall → Except HeapFault (Option Nat) → List Buffer
  | allocatePages _ count, .ok (some base) => .pages base count :: live
  | allocateAlignedPages _ count _, .ok (some base) => .pages base count :: live
  | allocatePool _ bytes, .ok (some address) => .pool address bytes :: live
  | allocateZeroPool _ bytes, .ok (some address) => .pool address bytes :: live
  | allocateCopyPool _ source, .ok (some address) => .pool address source.length :: live
  | reallocatePool _ _ newSize none, .ok (some address) => .pool address newSize :: live
  | reallocatePool _ _ newSize (some old), .ok (some address) =>
      .pool address newSize :: dropPool live old
  | freePages base count, .ok _ => live.erase (.pages base count)
  | freePool address, .ok _ => dropPool live address
  | _, _ => live

end ServiceCall

abbrev ServiceHistory : Type := List (ServiceCall × Except HeapFault (Option Nat))

def ServiceHistory.live : ServiceHistory → List Buffer
  | [] => []
  | (call, result) :: past => call.liveAfter (ServiceHistory.live past) result

/-- A history of permitted calls from a new heap on, some of which may have stopped, and the heap
that it leads to. -/
inductive ServiceRun (region : AddressRange) (memory : Memory) : ServiceHistory → Heap → Prop
  | start : ServiceRun region memory [] (Heap.create region memory)
  | call {past heap call result} : ServiceRun region memory past heap →
      call.Permitted past.live → (call.step.outcome heap).1 = result →
      ServiceRun region memory ((call, result) :: past) (call.step.outcome heap).2

variable {region : AddressRange} {memory : Memory} {past : ServiceHistory} {heap : Heap}
  {stock : Stock}

namespace ServiceCall

theorem perm_dropPool {live : List Buffer} {address bytes : Nat}
    (member : .pool address bytes ∈ live) :
    ∃ size, live.Perm (.pool address size :: dropPool live address) := by
  obtain ⟨buffer, before, after, _, named, split, rest⟩ :=
    List.exists_of_eraseP (p := fun buffer : Buffer => buffer.pointer? = some address) member
      (by simp [Buffer.pointer?])
  rw [dropPool, rest, split]
  cases buffer with
  | pages base count => simp [Buffer.pointer?] at named
  | pool other size =>
      simp only [Buffer.pointer?, Option.some.injEq, decide_eq_true_eq] at named
      subst other
      exact ⟨size, List.perm_middle⟩

theorem perm_dropPool_of_holds (holds : heap.Holds stock) {address bytes : Nat}
    (member : .pool address bytes ∈ stock.live) :
    stock.live.Perm (.pool address bytes :: dropPool stock.live address) := by
  obtain ⟨size, permuted⟩ := perm_dropPool member
  have same : bytes = size := holds.pool_inj member (permuted.mem_iff.mpr List.mem_cons_self)
  rwa [same]

theorem after_supply (holds : heap.Holds stock) {call : ServiceCall} {buffer : Nat → Buffer}
    (supplies : Heap.Supplies call.step heap stock buffer)
    (refused : call.liveAfter stock.live (.ok none) = stock.live)
    (supplied : ∀ address, call.liveAfter stock.live (.ok (some address)) =
      buffer address :: stock.live) :
    ∃ next, (call.step.outcome heap).2.Holds next ∧
      next.live = call.liveAfter stock.live (call.step.outcome heap).1 := by
  rcases supplies with none | ⟨address, later, next, done, kept, live⟩
  · rw [none]
    exact ⟨stock, holds, refused.symm⟩
  · rw [done]
    exact ⟨next, kept, live.trans (supplied address).symm⟩

theorem holds_after (holds : heap.Holds stock) {call : ServiceCall}
    (permitted : call.Permitted stock.live) :
    ∃ next, (call.step.outcome heap).2.Holds next ∧
      next.live = call.liveAfter stock.live (call.step.outcome heap).1 := by
  cases call with
  | allocatePages category count =>
      exact after_supply holds (holds.backedPages category count).supplies rfl fun _ => rfl
  | allocateAlignedPages category count alignment =>
      simp only [step, MemoryServices.allocateAlignedPages, MemoryServices.backed]
      split
      · rcases Heap.allocateAlignedPages_cases holds.shape count alignment with
          refused | ⟨fault, stopped⟩ | ⟨index, vacant, granted⟩
        · rw [refused]
          exact ⟨stock, holds, rfl⟩
        · rw [stopped]
          exact ⟨stock, holds, rfl⟩
        · rw [granted]
          exact ⟨_, holds.granted vacant, rfl⟩
      · exact ⟨stock, holds, rfl⟩
  | allocatePool category bytes =>
      exact after_supply holds (holds.allocatePool category bytes).supplies rfl fun _ => rfl
  | allocateZeroPool category bytes =>
      exact after_supply holds (holds.allocateZeroPool category bytes).supplies rfl fun _ => rfl
  | allocateCopyPool category source =>
      exact after_supply holds (holds.allocateCopyPool category source).supplies rfl fun _ => rfl
  | reallocatePool category oldSize newSize old =>
      cases old with
      | none =>
          exact after_supply holds (holds.reallocateNone category oldSize newSize).supplies rfl
            fun _ => rfl
      | some old =>
          obtain ⟨bytes, member, small⟩ := permitted
          rcases (holds.perm (perm_dropPool_of_holds holds member)).reallocatePool rfl small
            category newSize with refused | ⟨address, later, next, done, kept, live, _⟩
          · rw [step, refused]
            exact ⟨stock, holds, rfl⟩
          · rw [step, done]
            exact ⟨next, kept, live⟩
  | freePages base count =>
      obtain ⟨later, freed, kept, _⟩ :=
        (holds.perm (List.perm_cons_erase permitted)).released rfl
      simp only [step, MemoryServices.freePages, Step.outcome_bind_ok freed]
      exact ⟨_, kept, rfl⟩
  | freePool address =>
      obtain ⟨bytes, member⟩ := permitted
      obtain ⟨later, next, freed, kept, live⟩ :=
        (holds.perm (perm_dropPool_of_holds holds member)).freeBytes rfl
      simp only [step, MemoryServices.freePool, Step.outcome_bind_ok freed]
      exact ⟨next, kept, live⟩
  | write address bytes =>
      obtain ⟨buffer, member, inside⟩ := permitted
      exact ⟨stock, holds.written member address bytes inside, rfl⟩

end ServiceCall

theorem ServiceRun.holds (run : ServiceRun region memory past heap) :
    ∃ stock, heap.Holds stock ∧ stock.live = past.live := by
  induction run with
  | start => exact ⟨_, Heap.Holds.create region memory, rfl⟩
  | call _ permitted answered ih =>
      obtain ⟨stock, holds, live⟩ := ih
      rw [← live] at permitted
      obtain ⟨next, kept, nextLive⟩ := ServiceCall.holds_after holds permitted
      refine ⟨next, kept, ?_⟩
      rw [nextLive, answered, live]
      rfl

theorem Heap.Holds.range_eq (holds : heap.Holds stock) :
    (MemoryServices.range heap).base.toNat = heap.pages.first ∧
      (MemoryServices.range heap).base.toNat + (MemoryServices.range heap).size.toNat =
        heap.pages.stop :=
  holds.shape.range_eq

theorem Heap.Holds.pointers_nodup (holds : heap.Holds stock) :
    (stock.live.filterMap Buffer.pointer?).Nodup := by
  rw [List.Nodup, List.pairwise_filterMap]
  refine holds.live_apart.imp_of_mem ?_
  intro left right inLeft inRight apart address first other second
  cases left with
  | pages base count => cases first
  | pool start bytes =>
      cases right with
      | pages base count => cases second
      | pool next size =>
          cases first
          cases second
          exact holds.address_ne inLeft inRight apart

/-- What clients hold stays inside the range of the heap and apart from each other. Pool buffers
have addresses of their own even when they hold no byte, and no live buffer reaches into the
bitmaps or into the header of a block, free or live. -/
theorem live_buffers_apart (run : ServiceRun region memory past heap) :
    (∀ buffer ∈ past.live,
      (MemoryServices.range heap).base.toNat ≤ buffer.span.start ∧
      buffer.span.stop ≤
        (MemoryServices.range heap).base.toNat + (MemoryServices.range heap).size.toNat) ∧
    past.live.Pairwise (fun left right => left.span.Apart right.span) ∧
    (past.live.filterMap Buffer.pointer?).Nodup ∧
    ∀ buffer ∈ past.live, ∀ address, buffer.span.Covers address →
      ¬ heap.pages.bitmaps.Covers address ∧
      (∀ block, heap.ListsFree block →
        ¬ Span.Covers ⟨block, block + BlockHeader.bytes⟩ address) ∧
      ∀ pointer bytes, .pool pointer bytes ∈ past.live →
        ¬ Span.Covers ⟨pointer - BlockHeader.bytes, pointer⟩ address := by
  obtain ⟨stock, holds, live⟩ := run.holds
  rw [← live]
  refine ⟨?_, ?_, holds.pointers_nodup, ?_⟩
  · intro buffer member
    obtain ⟨base, stop⟩ := holds.range_eq
    rw [stop, base]
    exact (holds.span_within_extent member).trans (holds.extent_within member).1
  · refine holds.live_apart.imp_of_mem ?_
    intro left right inLeft inRight apart
    exact (apart.mono_left (holds.span_within_extent inLeft)).mono_right
      (holds.span_within_extent inRight)
  · intro buffer member address inside
    have within := holds.span_within_extent member
    refine ⟨?_, ?_, ?_⟩
    · exact ((holds.bitmaps_apart (holds.extent_within member)).mono_right within).not_covers
        inside
    · intro block listed
      obtain ⟨sizeClass, free⟩ := holds.listed_free listed
      have apart := (holds.free_apart member free).mono_left within
      exact (apart.mono_right (Heap.Holds.header_within_block _ _)).symm.not_covers inside
    · intro pointer bytes other
      have header := holds.pointer_header_within other
      by_cases same : buffer = .pool pointer bytes
      · subst buffer
        simp only [Span.Covers, Buffer.span] at *
        omega
      · have apart := holds.live_apart_of_ne member other same
        exact ((apart.mono_left within).mono_right header).symm.not_covers inside

/-- Two buffers of one page, a page that its client wrote over, and the first buffer given back. -/
theorem live_buffers_apart_after_free :
    let past : ServiceHistory := [
      (.freePool 0x17010, .ok none),
      (.write 0x16000 [1, 2, 3], .ok none),
      (.allocatePages .runtime 1, .ok (some 0x16000)),
      (.allocatePool .runtime 1600, .ok (some 0x17810)),
      (.allocatePool .runtime 1500, .ok (some 0x17010))]
    ∃ heap, ServiceRun ⟨0x10000, 0x8000⟩ Memory.zeroed past heap ∧
      past.live = [.pages 0x16000 1, .pool 0x17810 1600] ∧
      past.live.Pairwise fun left right => left.span.Apart right.span := by
  intro past
  have run : ServiceRun ⟨0x10000, 0x8000⟩ Memory.zeroed past _ :=
    .call (.call (.call (.call (.call .start trivial (by decide +kernel)) trivial
      (by decide +kernel)) trivial (by decide +kernel))
      ⟨.pages 0x16000 1, by decide, by decide⟩ (by decide +kernel))
      ⟨1500, by decide⟩ (by decide +kernel)
  exact ⟨_, run, by decide, (live_buffers_apart run).2.1⟩

end PartitionBoot
