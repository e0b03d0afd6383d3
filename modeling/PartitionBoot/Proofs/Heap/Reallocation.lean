import PartitionBoot.Proofs.Heap.Exhaustion
import PartitionBoot.Proofs.Heap.RetiredBlocks

/-!
Moving a pool buffer to another size. The move is refused exactly where a buffer of the new size
would be, and then it leaves everything as it is. Else a new buffer takes the place of the old one,
with the bytes that both have room for and zeros behind them.
-/

namespace PartitionBoot

namespace Heap

variable {heap later : Heap} {stock : Stock}

theorem refused_iff_not_serves {request : Step Heap HeapFault (Option Nat)} {answer : Option Nat}
    (answered : (request.outcome heap).1 = .ok answer) :
    (request.outcome heap).1 = .ok none ↔ ¬ heap.Serves request := by
  rw [Serves, answered]
  cases answer <;> simp

theorem Provides.answered {request : Step Heap HeapFault (Option Nat)} {buffer : Nat → Buffer}
    {byte : Nat → Option UInt8} (provides : Provides request heap stock buffer byte) :
    ∃ answer, (request.outcome heap).1 = .ok answer := by
  rcases provides with refused | ⟨address, later, next, done, _⟩
  · exact ⟨none, congrArg Prod.fst refused⟩
  · exact ⟨some address, congrArg Prod.fst done⟩

/-- A new buffer has taken the place of an old one, if there was one, and the buffers of others are
as they were. -/
structure Replaces (later heap : Heap) (live after : List Buffer) (old : Option Nat)
    (kept size address : Nat) : Prop where
  fresh : ∀ buffer ∈ live, (Buffer.pool address size).span.Apart buffer.span
  handed : .pool address size ∈ after
  copied : ∀ pointer ∈ old, ∀ index < kept,
    later.memory.read (address + index) = heap.memory.read (pointer + index)
  zeroed : ∀ index < size, (∀ pointer ∈ old, kept ≤ index) →
    later.memory.read (address + index) = 0
  retired : ∀ pointer ∈ old, (∀ bytes, .pool pointer bytes ∉ after) ∧
    ∃ signature, (MemoryServices.freePool pointer).outcome later =
      (.error (.notLive pointer signature), later)
  others : ∀ buffer ∈ live, (∀ pointer ∈ old, buffer.pointer? ≠ some pointer) →
    buffer ∈ after ∧
      ∀ place, buffer.span.Covers place → later.memory.read place = heap.memory.read place

end Heap

namespace ServiceCall

variable {heap : Heap} {stock : Stock}

theorem pointer_not_mem {live rest : List Buffer} {pointer bytes : Nat}
    (nodup : (live.filterMap Buffer.pointer?).Nodup)
    (permuted : live.Perm (.pool pointer bytes :: rest)) (size : Nat) :
    .pool pointer size ∉ rest := by
  have apart := (permuted.filterMap Buffer.pointer?).nodup_iff.mp nodup
  rw [List.filterMap_cons_some (show Buffer.pointer? (.pool pointer bytes) = some pointer from rfl),
    List.nodup_cons] at apart
  exact fun member => apart.1 (List.mem_filterMap.mpr ⟨_, member, rfl⟩)

theorem mem_dropPool_of_ne {live : List Buffer} {pointer : Nat} {buffer : Buffer}
    (member : buffer ∈ live) (other : buffer.pointer? ≠ some pointer) :
    buffer ∈ dropPool live pointer :=
  (List.mem_eraseP_of_neg (by simpa using other)).mpr member

theorem replaces_none (holds : heap.Holds stock) (category : MemoryCategory)
    (oldSize newSize : Nat) :
    (reallocatePool category oldSize newSize none).step.outcome heap = (.ok none, heap) ∨
      ∃ address later,
        (reallocatePool category oldSize newSize none).step.outcome heap =
          (.ok (some address), later) ∧
        later.Replaces heap stock.live (.pool address newSize :: stock.live) none
          (min oldSize newSize) newSize address := by
  rcases holds.reallocateNone category oldSize newSize with
    refused | ⟨address, later, next, done, supplied, live, spares, zeroed⟩
  · exact Or.inl refused
  · refine Or.inr ⟨address, later, done, ?_⟩
    constructor
    · exact supplied.span_apart live
    · exact List.mem_cons_self
    · intro pointer absent
      cases absent
    · exact fun index inside _ => zeroed index (Nat.add_lt_add_left inside address) 0 rfl
    · intro pointer absent
      cases absent
    · exact fun buffer member _ => ⟨List.mem_cons_of_mem _ member,
        fun place inside => spares.kept place (Or.inl ⟨buffer, member, inside⟩)⟩

theorem replaces_some (holds : heap.Holds stock) {oldSize old bytes : Nat}
    (member : .pool old bytes ∈ stock.live) (small : oldSize ≤ bytes)
    (category : MemoryCategory) (newSize : Nat) :
    (reallocatePool category oldSize newSize (some old)).step.outcome heap = (.ok none, heap) ∨
      ∃ address later,
        (reallocatePool category oldSize newSize (some old)).step.outcome heap =
          (.ok (some address), later) ∧
        later.Replaces heap stock.live (.pool address newSize :: dropPool stock.live old)
          (some old) (min oldSize newSize) newSize address := by
  rcases holds.yields_zeroPool category newSize with
    refused | ⟨address, middle, between, zeroed, handsOut⟩
  · left
    rw [step, MemoryServices.outcome_reallocatePool_some, refused]
  · right
    obtain ⟨later, next, done, moves⟩ := moves_reallocate_some holds member small zeroed handsOut
    have permuted := perm_dropPool_of_holds holds member
    rcases (holds.perm permuted).reallocatePool rfl small category newSize with
      refused | ⟨_, _, _, again, _, _, spares, fresh, contents⟩
    · rw [step, refused] at done
      cases done
    · rw [step, again] at done
      cases done
      refine ⟨address, later, again, ?_⟩
      constructor
      · exact fun other held => fresh other (permuted.mem_iff.mp held)
      · exact List.mem_cons_self
      · rintro pointer ⟨⟩ index early
        rw [contents index (by omega), if_pos (by omega)]
      · intro index inside late
        have behind := late old rfl
        rw [contents index inside, if_neg (by omega)]
      · rintro pointer ⟨⟩
        refine ⟨fun size among => ?_, moves.turns.holds.outcome_freeBytes_retired
          (moves.turns.retires rfl)⟩
        rcases List.mem_cons.mp among with same | kept
        · -- The new buffer was handed out while the old one was live.
          cases same
          exact pointer_not_mem handsOut.holds.pointers_nodup
            (List.Perm.of_eq handsOut.issues.live) bytes member
        · exact pointer_not_mem holds.pointers_nodup permuted size kept
      · intro buffer held other
        have kept := mem_dropPool_of_ne held (other old rfl)
        exact ⟨List.mem_cons_of_mem _ kept,
          fun place inside => spares.kept place (Or.inl ⟨buffer, kept, inside⟩)⟩

/-- Moving a buffer is refused without a change, or the new buffer replaces the old one. -/
theorem replaces (holds : heap.Holds stock) {category : MemoryCategory} {oldSize newSize : Nat}
    {old : Option Nat}
    (permitted : (reallocatePool category oldSize newSize old).Permitted stock.live) :
    (reallocatePool category oldSize newSize old).step.outcome heap = (.ok none, heap) ∨
      ∃ address later,
        (reallocatePool category oldSize newSize old).step.outcome heap =
          (.ok (some address), later) ∧
        later.Replaces heap stock.live
          ((reallocatePool category oldSize newSize old).liveAfter stock.live (.ok (some address)))
          old (min oldSize newSize) newSize address := by
  cases old with
  | none => exact replaces_none holds category oldSize newSize
  | some old =>
      obtain ⟨bytes, member, small⟩ := permitted
      exact replaces_some holds member small category newSize

end ServiceCall

variable {region : AddressRange} {memory : Memory} {past : ServiceHistory} {heap : Heap}

/-- Moving a live buffer, or none, to another size is refused exactly where a buffer of that size
is, and then nothing changes. Else the new buffer lies apart from all live ones and has the bytes
that both had room for and zeros behind them, the old one is no longer live, and the others are as
they were. -/
theorem reallocation_replaces_or_refuses (run : ServiceRun region memory past heap)
    {category : MemoryCategory} {oldSize newSize : Nat} {old : Option Nat}
    (permitted : (ServiceCall.reallocatePool category oldSize newSize old).Permitted past.live) :
    let call := ServiceCall.reallocatePool category oldSize newSize old
    ((call.step.outcome heap).1 = .ok none ↔
      ((ServiceCall.allocatePool category newSize).step.outcome heap).1 = .ok none) ∧
    (call.step.outcome heap = (.ok none, heap) ∧ call.liveAfter past.live (.ok none) = past.live ∧
        (∀ pointer ∈ old, ∃ later,
          (MemoryServices.freePool pointer).outcome heap = (.ok (), later)) ∨
      ∃ address later, call.step.outcome heap = (.ok (some address), later) ∧
        later.Replaces heap past.live (call.liveAfter past.live (.ok (some address))) old
          (min oldSize newSize) newSize address) := by
  intro call
  obtain ⟨stock, stocked⟩ := run.stockRun
  have holds := stocked.holds
  rw [← stocked.live] at permitted ⊢
  have moved := ServiceCall.replaces holds permitted
  refine ⟨?_, ?_⟩
  · have served := holds.serves_poolRequest_iff permitted rfl
    have answered : ∃ answer, (call.step.outcome heap).1 = .ok answer := by
      rcases moved with refused | ⟨address, later, done, _⟩
      · exact ⟨none, congrArg Prod.fst refused⟩
      · exact ⟨some address, congrArg Prod.fst done⟩
    obtain ⟨answer, answered⟩ := answered
    obtain ⟨other, supplied⟩ := (holds.allocatePool category newSize).answered
    exact (Heap.refused_iff_not_serves answered).trans
      ((not_congr served).trans (Heap.refused_iff_not_serves supplied).symm)
  · refine moved.imp_left fun refused => ⟨refused, ?_, ?_⟩
    · cases old <;> rfl
    · rintro pointer ⟨⟩
      obtain ⟨bytes, member, _⟩ := permitted
      obtain ⟨later, _, freed, _⟩ :=
        (holds.perm (ServiceCall.perm_dropPool_of_holds holds member)).freeBytes rfl
      exact ⟨later, freed⟩

/-- A buffer that is moved to a block of another class, in a page that is carved up for it. A buffer
larger than the heap is refused. -/
theorem reallocation_to_other_class :
    let past : ServiceHistory := [
      (.write 0x17010 [9, 8, 7], .ok none),
      (.allocatePool .runtime 1500, .ok (some 0x17010))]
    ∃ heap later, ServiceRun ⟨0x10000, 0x8000⟩ Memory.zeroed past heap ∧
      (ServiceCall.reallocatePool .runtime 1500 0x8000 (some 0x17010)).step.outcome heap =
        (.ok none, heap) ∧
      (ServiceCall.reallocatePool .runtime 2 241 (some 0x17010)).step.outcome heap =
        (.ok (some 0x16010), later) ∧
      later.memory.read 0x16011 = heap.memory.read 0x17011 ∧ later.memory.read 0x16012 = 0 ∧
      ∃ signature, (MemoryServices.freePool 0x17010).outcome later =
        (.error (.notLive 0x17010 signature), later) := by
  intro past
  obtain ⟨heap, run, short, served⟩ : ∃ heap,
      ServiceRun ⟨0x10000, 0x8000⟩ Memory.zeroed past heap ∧
      ((ServiceCall.allocatePool .runtime 0x8000).step.outcome heap).1 = .ok none ∧
      ((ServiceCall.reallocatePool .runtime 2 241 (some 0x17010)).step.outcome heap).1 =
        .ok (some 0x16010) :=
    ⟨_, .call (.call .start trivial (by decide +kernel))
      ⟨.pool 0x17010 1500, by decide, by decide⟩ (by decide +kernel), by decide +kernel,
      by decide +kernel⟩
  have longer : (ServiceCall.reallocatePool .runtime 1500 0x8000 (some 0x17010)).Permitted
      past.live := ⟨1500, by decide, by decide⟩
  have shorter : (ServiceCall.reallocatePool .runtime 2 241 (some 0x17010)).Permitted past.live :=
    ⟨1500, by decide, by decide⟩
  obtain ⟨unserved, ⟨refused, _⟩ | ⟨_, _, done, _⟩⟩ :=
    reallocation_replaces_or_refuses run longer
  · obtain ⟨missed, _⟩ | ⟨address, later, moved, replaces⟩ :=
      (reallocation_replaces_or_refuses run shorter).2
    · rw [missed] at served
      cases served
    · rw [moved, Except.ok.injEq, Option.some.injEq] at served
      subst served
      exact ⟨heap, later, run, refused, moved, replaces.copied 0x17010 rfl 1 (by decide),
        replaces.zeroed 2 (by decide) (fun _ _ => by decide), (replaces.retired 0x17010 rfl).2⟩
  · have impossible := unserved.mpr short
    rw [done] at impossible
    cases impossible

end PartitionBoot
