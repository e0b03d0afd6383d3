import PartitionBoot.Proofs.Heap.ServiceHistory

/-!
What clients find in their buffers. A history settles bytes of memory: those a client wrote and
those that came with its buffer. What is settled about live buffers is there whenever they are
read, no call disturbs the buffer of anyone else, and nothing outside the heap is ever written.
-/

namespace PartitionBoot

def AddressRange.Covers (range : AddressRange) (address : Nat) : Prop :=
  range.base.toNat ≤ address ∧ address < range.base.toNat + range.size.toNat

instance (range : AddressRange) (address : Nat) : Decidable (range.Covers address) :=
  inferInstanceAs (Decidable (_ ∧ _))

def laid (known : Nat → Option UInt8) (span : Span) (byte : Nat → Option UInt8) :
    Nat → Option UInt8 := fun address =>
  if span.Covers address then byte (address - span.start) else known address

namespace ServiceCall

/-- What is settled about memory once a call was answered. A new buffer comes with zeros, with a
copy or with bytes of which nothing is said, and a moved one with what the old one held. -/
def settles (known : Nat → Option UInt8) :
    ServiceCall → Except HeapFault (Option Nat) → Nat → Option UInt8
  | allocatePages _ count, .ok (some base) =>
      laid known (Buffer.pages base count).span fun _ => none
  | allocateAlignedPages _ count _, .ok (some base) =>
      laid known (Buffer.pages base count).span fun _ => none
  | allocatePool _ bytes, .ok (some address) =>
      laid known (Buffer.pool address bytes).span fun _ => none
  | allocateZeroPool _ bytes, .ok (some address) =>
      laid known (Buffer.pool address bytes).span fun _ => some 0
  | allocateCopyPool _ source, .ok (some address) =>
      laid known (Buffer.pool address source.length).span fun offset => source[offset]?
  | reallocatePool _ _ newSize none, .ok (some address) =>
      laid known (Buffer.pool address newSize).span fun _ => some 0
  | reallocatePool _ oldSize newSize (some old), .ok (some address) =>
      laid known (Buffer.pool address newSize).span fun offset =>
        if offset < oldSize then known (old + offset) else some 0
  | write address bytes, .ok _ =>
      laid known ⟨address, address + bytes.length⟩ fun offset => bytes[offset]?
  | _, _ => known

def Writes (address : Nat) : ServiceCall → Prop
  | write start bytes => Span.Covers ⟨start, start + bytes.length⟩ address
  | _ => False

end ServiceCall

def ServiceHistory.known : ServiceHistory → Nat → Option UInt8
  | [] => fun _ => none
  | (call, result) :: past => call.settles (ServiceHistory.known past) result

/-- What is known of the bytes in live buffers is so. -/
def Memory.BearsOut (memory : Memory) (live : List Buffer) (known : Nat → Option UInt8) : Prop :=
  ∀ buffer ∈ live, ∀ address, buffer.span.Covers address → ∀ value, known address = some value →
    memory.read address = value

/-- The ways in which a call changes a heap, the buffers that are live and what is known of their
bytes: some buffers are given back, a new one may take their place, or a client writes. -/
inductive Effect (heap : Heap) (live : List Buffer) (known : Nat → Option UInt8) :
    ServiceCall → Heap → List Buffer → (Nat → Option UInt8) → Prop
  | kept {call later rest} : later.Spares heap rest → rest ⊆ live →
      Effect heap live known call later rest known
  | supplied {call later rest buffer byte} : later.Spares heap rest → rest ⊆ live →
      (∀ other ∈ live, buffer.span.Apart other.span) →
      later.memory.Carries buffer.span byte →
      Effect heap live known call later (buffer :: rest) (laid known buffer.span byte)
  | written {buffer start bytes} : buffer ∈ live →
      Span.Within ⟨start, start + bytes.length⟩ buffer.span →
      Effect heap live known (.write start bytes)
        (heap.withMemory (heap.memory.writeBytes start bytes)) live
        (laid known ⟨start, start + bytes.length⟩ fun offset => bytes[offset]?)

namespace Effect

variable {heap later : Heap} {stock : Stock} {live after : List Buffer}
  {known settled : Nat → Option UInt8} {call : ServiceCall}

theorem bearsOut (effect : Effect heap live known call later after settled)
    (bears : heap.memory.BearsOut live known) : later.memory.BearsOut after settled := by
  intro buffer member address inside value told
  cases effect with
  | kept spares fewer =>
      rw [spares.kept address (Or.inl ⟨buffer, member, inside⟩)]
      exact bears buffer (fewer member) address inside value told
  | @supplied _ _ rest new byte spares fewer _ carries =>
      simp only [laid] at told
      split at told
      · rename_i covers
        have place : new.span.start + (address - new.span.start) = address :=
          Nat.add_sub_cancel' covers.1
        have inside : new.span.start + (address - new.span.start) < new.span.stop := by
          rw [place]
          exact covers.2
        have carried := carries (address - new.span.start) inside value told
        rwa [place] at carried
      · rename_i outside
        have old : buffer ∈ rest := by
          rcases List.mem_cons.mp member with rfl | old
          · exact absurd inside outside
          · exact old
        rw [spares.kept address (Or.inl ⟨buffer, old, inside⟩)]
        exact bears buffer (fewer old) address inside value told
  | @written _ start bytes _ _ =>
      simp only [laid] at told
      rw [Heap.withMemory_memory]
      split at told
      · rename_i covers
        have place : start + (address - start) = address := Nat.add_sub_cancel' covers.1
        have carries : (heap.memory.writeBytes start bytes).Carries ⟨start, start + bytes.length⟩
            fun offset => bytes[offset]? := Memory.carries_writeBytes
        have carried := carries (address - start) (by rw [place]; exact covers.2) value told
        rwa [place] at carried
      · rename_i outside
        have apart := Span.apart_point outside
        rw [Memory.read_writeBytes_outside _ _ _ _ (by simp only [Span.Apart] at apart; omega)]
        exact bears buffer member address inside value told

theorem undisturbed (effect : Effect heap live known call later after settled) {buffer : Buffer}
    (before : buffer ∈ live) (still : buffer ∈ after) {address : Nat}
    (inside : buffer.span.Covers address) (unwritten : ¬ call.Writes address) :
    later.memory.read address = heap.memory.read address := by
  cases effect with
  | kept spares _ => exact spares.kept address (Or.inl ⟨buffer, still, inside⟩)
  | supplied spares _ fresh _ =>
      rcases List.mem_cons.mp still with rfl | old
      -- A new buffer lies apart from all that was live, so it was not live before.
      · exact absurd inside ((fresh buffer before).not_covers inside)
      · exact spares.kept address (Or.inl ⟨buffer, old, inside⟩)
  | written _ _ =>
      have apart := Span.apart_point unwritten
      rw [Heap.withMemory_memory]
      exact Memory.read_writeBytes_outside _ _ _ _ (by simp only [Span.Apart] at apart; omega)

theorem spares (effect : Effect heap live known call later after settled)
    (holds : heap.Holds stock) (same : stock.live = live) : later.Spares heap [] := by
  cases effect with
  | kept spares _ => exact spares.mono (List.nil_subset _)
  | supplied spares _ _ _ => exact spares.mono (List.nil_subset _)
  | written member within =>
      rw [← same] at member
      exact ((holds.perm (List.perm_cons_erase member)).spares_written rfl within).mono
        (List.nil_subset _)

end Effect

namespace ServiceCall

variable {heap : Heap} {stock : Stock} {known : Nat → Option UInt8}

theorem effect_of_provides {call : ServiceCall} {buffer : Nat → Buffer}
    {byte : Nat → Option UInt8} (provides : Heap.Provides call.step heap stock buffer byte)
    (refused : call.liveAfter stock.live (.ok none) = stock.live ∧
      call.settles known (.ok none) = known)
    (supplied : ∀ address,
      call.liveAfter stock.live (.ok (some address)) = buffer address :: stock.live ∧
      call.settles known (.ok (some address)) = laid known (buffer address).span byte) :
    Effect heap stock.live known call (call.step.outcome heap).2
      (call.liveAfter stock.live (call.step.outcome heap).1)
      (call.settles known (call.step.outcome heap).1) := by
  rcases provides with none | ⟨address, later, next, done, holds, live, spares, carries⟩
  · rw [none, refused.1, refused.2]
    exact .kept (Heap.Spares.refl _ _) (List.Subset.refl _)
  · rw [done, (supplied address).1, (supplied address).2]
    exact .supplied spares (List.Subset.refl _) (holds.span_apart live) carries

theorem effect_of_moved (holds : heap.Holds stock) {call : ServiceCall}
    {category : MemoryCategory} {oldSize newSize old bytes : Nat}
    (moves : call = reallocatePool category oldSize newSize (some old))
    (member : .pool old bytes ∈ stock.live) (small : oldSize ≤ bytes)
    (bears : heap.memory.BearsOut stock.live known) :
    Effect heap stock.live known call (call.step.outcome heap).2
      (call.liveAfter stock.live (call.step.outcome heap).1)
      (call.settles known (call.step.outcome heap).1) := by
  subst moves
  have permuted := perm_dropPool_of_holds holds member
  rcases (holds.perm permuted).reallocatePool rfl small category newSize with
    refused | ⟨address, later, next, done, _, _, spares, fresh, moved⟩
  · rw [step, refused]
    exact .kept (Heap.Spares.refl _ _) (List.Subset.refl _)
  · rw [step, done]
    have carries : later.memory.Carries (Buffer.pool address newSize).span fun offset =>
        if offset < oldSize then known (old + offset) else some 0 := by
      intro offset inside value told
      rw [show (Buffer.pool address newSize).span.start = address from rfl,
        moved offset (Nat.lt_of_add_lt_add_left inside)]
      simp only at told
      split at told
      · rename_i early
        rw [if_pos early]
        exact bears _ member _ ⟨Nat.le_add_right _ _,
          Nat.add_lt_add_left (Nat.lt_of_lt_of_le early small) old⟩ value told
      · rename_i late
        rw [if_neg late]
        exact Option.some.inj told
    exact .supplied spares List.eraseP_subset
      (fun other live => fresh other (permuted.mem_iff.mp live)) carries

theorem effect (holds : heap.Holds stock) {call : ServiceCall}
    (permitted : call.Permitted stock.live) (bears : heap.memory.BearsOut stock.live known) :
    Effect heap stock.live known call (call.step.outcome heap).2
      (call.liveAfter stock.live (call.step.outcome heap).1)
      (call.settles known (call.step.outcome heap).1) := by
  have still : heap.Spares heap stock.live := Heap.Spares.refl _ _
  cases call with
  | allocatePages category count =>
      exact effect_of_provides (holds.backedPages category count) ⟨rfl, rfl⟩ fun _ => ⟨rfl, rfl⟩
  | allocateAlignedPages category count alignment =>
      simp only [step, MemoryServices.allocateAlignedPages, MemoryServices.backed]
      split
      · rcases Heap.allocateAlignedPages_cases holds.shape count alignment with
          refused | ⟨fault, stopped⟩ | ⟨index, vacant, granted⟩
        · rw [refused]
          exact .kept still (List.Subset.refl _)
        · rw [stopped]
          exact .kept still (List.Subset.refl _)
        · rw [granted]
          exact .supplied (holds.spares_granted vacant) (List.Subset.refl _)
            ((holds.granted vacant).span_apart rfl) Memory.carries_none
      · exact .kept still (List.Subset.refl _)
  | allocatePool category bytes =>
      exact effect_of_provides (holds.allocatePool category bytes) ⟨rfl, rfl⟩ fun _ => ⟨rfl, rfl⟩
  | allocateZeroPool category bytes =>
      exact effect_of_provides (holds.allocateZeroPool category bytes) ⟨rfl, rfl⟩
        fun _ => ⟨rfl, rfl⟩
  | allocateCopyPool category source =>
      exact effect_of_provides (holds.allocateCopyPool category source) ⟨rfl, rfl⟩
        fun _ => ⟨rfl, rfl⟩
  | reallocatePool category oldSize newSize old =>
      cases old with
      | none =>
          exact effect_of_provides (holds.reallocateNone category oldSize newSize) ⟨rfl, rfl⟩
            fun _ => ⟨rfl, rfl⟩
      | some old =>
          obtain ⟨bytes, member, small⟩ := permitted
          exact effect_of_moved holds rfl member small bears
  | freePages base count =>
      have permuted := List.perm_cons_erase permitted
      have spares := (holds.perm permuted).spares_released rfl
      obtain ⟨later, freed, _⟩ := (holds.perm permuted).released rfl
      rw [freed] at spares
      simp only [step, MemoryServices.freePages, Step.outcome_bind_ok freed]
      exact .kept spares List.erase_subset
  | freePool address =>
      obtain ⟨bytes, member⟩ := permitted
      have permuted := perm_dropPool_of_holds holds member
      have spares := (holds.perm permuted).spares_freeBytes rfl
      obtain ⟨later, next, freed, _⟩ := (holds.perm permuted).freeBytes rfl
      rw [freed] at spares
      simp only [step, MemoryServices.freePool, Step.outcome_bind_ok freed]
      exact .kept spares List.eraseP_subset
  | write address bytes =>
      obtain ⟨buffer, member, within⟩ := permitted
      exact .written member within

theorem reallocated (holds : heap.Holds stock) {category : MemoryCategory}
    {oldSize newSize old address : Nat}
    (permitted : (reallocatePool category oldSize newSize (some old)).Permitted stock.live)
    (done : ((reallocatePool category oldSize newSize (some old)).step.outcome heap).1 =
      .ok (some address)) {index : Nat} (inside : index < newSize) :
    ((reallocatePool category oldSize newSize (some old)).step.outcome heap).2.memory.read
        (address + index) =
      if index < oldSize then heap.memory.read (old + index) else 0 := by
  obtain ⟨bytes, member, small⟩ := permitted
  rcases (holds.perm (perm_dropPool_of_holds holds member)).reallocatePool rfl small category
    newSize with refused | ⟨place, later, next, moved, _, _, _, _, bytes⟩
  · rw [step, refused] at done
    cases done
  · rw [step, moved] at done
    cases done
    rw [step, moved]
    exact bytes index inside

end ServiceCall

theorem Heap.create_outside {region : AddressRange} (memory : Memory) {address : Nat}
    (outside : ¬ region.Covers address) :
    (Heap.create region memory).pages.OffLimits [] address ∧
      (Heap.create region memory).memory.read address = memory.read address := by
  obtain ⟨base, pages, _, _, pool, _, within⟩ := PagePool.create_poolOver region memory
  have whole := Page.le_spanning (16 * ((pages + 63) / 64))
  have size : Page.size = 4096 := rfl
  have clear : ¬ Span.Covers ⟨base, base + Page.bytes pages⟩ address := by
    simp only [AddressRange.Covers, Span.Covers, Page.bytes, size] at *
    omega
  simp only [Span.Covers, Page.bytes, size] at clear whole
  have apart : ¬ (PagePool.create region memory).1.bitmaps.Covers address := by
    rw [pool]
    simp only [PagePool.bitmaps, PagePool.poolOver, Span.Covers]
    omega
  refine ⟨Or.inr ⟨apart, ?_⟩, ?_⟩
  · simp only [Heap.create]
    rw [pool]
    simp only [PagePool.span, PagePool.stop, PagePool.address, PagePool.poolOver, Span.Covers,
      Page.bytes, size]
    omega
  · by_contra changed
    exact apart (PagePool.create_changes changed).2

variable {region : AddressRange} {memory : Memory} {past : ServiceHistory} {heap : Heap}

theorem ServiceRun.bearsOut (run : ServiceRun region memory past heap) :
    heap.memory.BearsOut past.live past.known ∧ heap.Spares (Heap.create region memory) [] := by
  induction run with
  | start =>
      refine ⟨?_, Heap.Spares.refl _ _⟩
      intro buffer none
      cases none
  | @call past heap call result run permitted answered ih =>
      obtain ⟨bears, spares⟩ := ih
      obtain ⟨stock, holds, live⟩ := run.holds
      rw [← live] at permitted bears
      have effect := ServiceCall.effect holds permitted bears
      refine ⟨?_, (effect.spares holds rfl).trans spares⟩
      have kept := effect.bearsOut bears
      rw [answered, live] at kept
      exact kept

/-- Live buffers hold what is settled about them, memory outside the range is as it was at first,
and whatever call comes next: the buffers that stay live keep all bytes that no client writes, and
a buffer that is moved takes its bytes along. -/
theorem buffers_keep_contents (run : ServiceRun region memory past heap) :
    (∀ buffer ∈ past.live, ∀ address, buffer.span.Covers address → ∀ value,
      past.known address = some value → heap.memory.read address = value) ∧
    (∀ address, ¬ region.Covers address → heap.memory.read address = memory.read address) ∧
    ∀ call : ServiceCall, call.Permitted past.live →
      (∀ buffer ∈ past.live, buffer ∈ call.liveAfter past.live (call.step.outcome heap).1 →
        ∀ address, buffer.span.Covers address → ¬ call.Writes address →
          (call.step.outcome heap).2.memory.read address = heap.memory.read address) ∧
      ∀ category oldSize newSize old address,
        call = .reallocatePool category oldSize newSize (some old) →
        (call.step.outcome heap).1 = .ok (some address) → ∀ index, index < newSize →
          (call.step.outcome heap).2.memory.read (address + index) =
            if index < oldSize then heap.memory.read (old + index) else 0 := by
  obtain ⟨bears, spares⟩ := run.bearsOut
  obtain ⟨stock, holds, live⟩ := run.holds
  refine ⟨bears, ?_, ?_⟩
  · intro address outside
    obtain ⟨off, same⟩ := Heap.create_outside memory outside
    rw [spares.kept address off, same]
  · intro call permitted
    rw [← live] at permitted bears ⊢
    refine ⟨?_, ?_⟩
    · intro buffer before still address inside unwritten
      exact (ServiceCall.effect holds permitted bears).undisturbed before still inside unwritten
    · rintro category oldSize newSize old address rfl done index inside
      exact ServiceCall.reallocated holds permitted done inside

/-- A zeroed buffer whose first bytes its client replaced, moved into a longer one with one of
these bytes to be kept. A page grant and its return leave the moved bytes where they are. -/
theorem moved_buffer_keeps_bytes :
    let past : ServiceHistory := [
      (.reallocatePool .runtime 1 250 (some 0x17010), .ok (some 0x17210)),
      (.write 0x17010 [9, 8], .ok none),
      (.allocatePages .runtime 1, .ok (some 0x16000)),
      (.allocateZeroPool .runtime 241, .ok (some 0x17010))]
    ∃ heap, ServiceRun ⟨0x10000, 0x8000⟩ Memory.zeroed past heap ∧
      past.live = [.pool 0x17210 250, .pages 0x16000 1] ∧
      heap.memory.read 0x17210 = 9 ∧ heap.memory.read 0x17211 = 0 ∧
      ((ServiceCall.freePages 0x16000 1).step.outcome heap).2.memory.read 0x17210 =
        heap.memory.read 0x17210 := by
  intro past
  have run : ServiceRun ⟨0x10000, 0x8000⟩ Memory.zeroed past _ :=
    .call (.call (.call (.call .start trivial (by decide +kernel)) trivial (by decide +kernel))
      ⟨.pool 0x17010 241, by decide, by decide⟩ (by decide +kernel))
      ⟨241, by decide, by decide⟩ (by decide +kernel)
  obtain ⟨told, _, next⟩ := buffers_keep_contents run
  have moved : Buffer.pool 0x17210 250 ∈ past.live := by decide
  have pages : Buffer.pages 0x16000 1 ∈ past.live := by decide
  refine ⟨_, run, by decide, ?_, ?_, ?_⟩
  · exact told _ moved 0x17210 (by decide) 9 (by decide)
  · exact told _ moved 0x17211 (by decide) 0 (by decide)
  · exact (next (.freePages 0x16000 1) pages).1 _ moved (by decide +kernel) 0x17210
      (by decide) id

end PartitionBoot
