import PartitionBoot.Proofs.Heap.OffLimits

/-!
What the memory services do. Each request is refused without a change or adds one live buffer with
the bytes that come with it, and leaves the buffers of others alone; a reallocation of a live
buffer never stops.
-/

namespace PartitionBoot

namespace Memory

def Carries (memory : Memory) (span : Span) (byte : Nat → Option UInt8) : Prop :=
  ∀ offset, span.start + offset < span.stop → ∀ value, byte offset = some value →
    memory.read (span.start + offset) = value

theorem carries_none {memory : Memory} {span : Span} : memory.Carries span fun _ => none := by
  intro offset _ value known
  cases known

theorem carries_writeBytes {memory : Memory} {start stop : Nat} {bytes : List UInt8} :
    (memory.writeBytes start bytes).Carries ⟨start, stop⟩ fun offset => bytes[offset]? := by
  intro offset _ value known
  obtain ⟨inside, rfl⟩ := List.getElem?_eq_some_iff.mp known
  exact read_writeBytes_inside _ _ _ _ inside

end Memory

namespace MemoryServices

/-! What the services come to that fill, copy or move what the byte pool gives them. -/

theorem outcome_allocateZeroPool (category : MemoryCategory) (bytes : Nat) (heap : Heap) :
    (allocateZeroPool category bytes).outcome heap =
      match (allocatePool category bytes).outcome heap with
      | (.ok (some address), later) => (.ok (some address),
          later.withMemory (later.memory.writeBytes address (List.replicate bytes 0)))
      | unfilled => unfilled := by
  rw [allocateZeroPool, Step.outcome_bind]
  rcases (allocatePool category bytes).outcome heap with ⟨fault | none | address, later⟩
  · rfl
  · rfl
  · simp only [Step.outcome_bind, Step.outcome_modify, Step.outcome_pure,
      Memory.fill_eq_writeBytes, Heap.withMemory]

theorem outcome_allocateCopyPool (category : MemoryCategory) (source : List UInt8) (heap : Heap) :
    (allocateCopyPool category source).outcome heap =
      match (allocatePool category source.length).outcome heap with
      | (.ok (some address), later) => (.ok (some address),
          later.withMemory (later.memory.writeBytes address source))
      | unfilled => unfilled := by
  rw [allocateCopyPool, Step.outcome_bind]
  rcases (allocatePool category source.length).outcome heap with ⟨fault | none | address, later⟩
  · rfl
  · rfl
  · simp only [Step.outcome_bind, Step.outcome_modify, Step.outcome_pure, Heap.withMemory]

theorem outcome_reallocatePool_none (category : MemoryCategory) (oldSize newSize : Nat)
    (heap : Heap) :
    (reallocatePool category oldSize newSize none).outcome heap =
      (allocateZeroPool category newSize).outcome heap := by
  rw [reallocatePool, Step.outcome_bind]
  rcases (allocateZeroPool category newSize).outcome heap with ⟨fault | none | address, later⟩
  · rfl
  · rfl
  · rfl

theorem outcome_reallocatePool_some (category : MemoryCategory) (oldSize newSize old : Nat)
    (heap : Heap) :
    (reallocatePool category oldSize newSize (some old)).outcome heap =
      match (allocateZeroPool category newSize).outcome heap with
      | (.ok (some address), later) =>
          if UInt64.size ≤ old + oldSize then (.error (.reallocationWraps old oldSize), later)
          else
            match (Heap.freeBytes old).outcome (later.withMemory (later.memory.writeBytes address
              (later.memory.readBytes old (min oldSize newSize)))) with
            | (.ok (), last) => (.ok (some address), last)
            | (.error fault, last) => (.error fault, last)
      | unmoved => unmoved := by
  rw [reallocatePool, Step.outcome_bind]
  rcases (allocateZeroPool category newSize).outcome heap with ⟨fault | none | address, later⟩
  · rfl
  · rfl
  · by_cases wraps : UInt64.size ≤ old + oldSize
    · simp only [if_pos wraps, Step.outcome_fail]
    · simp only [if_neg wraps, Step.outcome_bind, Step.outcome_modify, freePool, Memory.copy,
        Heap.withMemory]
      generalize (Heap.freeBytes old).outcome _ = freed
      rcases freed with ⟨fault | done, last⟩
      · rfl
      · rfl

end MemoryServices

namespace Heap

inductive ListsFree (heap : Heap) : Nat → Prop
  | head (sizeClass : SizeClass) : heap.firstFree sizeClass ≠ 0 →
      ListsFree heap (heap.firstFree sizeClass)
  | link {block : Nat} : ListsFree heap block →
      heap.memory.readNumber (block + BlockHeader.bytes) 8 ≠ 0 →
      ListsFree heap (heap.memory.readNumber (block + BlockHeader.bytes) 8)

/-- What a request does to heap, stock and memory: it is refused without a change, or it adds one
buffer with these bytes to those that are live and spares the others. -/
def Provides (request : Step Heap HeapFault (Option Nat)) (heap : Heap) (stock : Stock)
    (buffer : Nat → Buffer) (byte : Nat → Option UInt8) : Prop :=
  request.outcome heap = (.ok none, heap) ∨
    ∃ address later next, request.outcome heap = (.ok (some address), later) ∧
      later.Holds next ∧ next.live = buffer address :: stock.live ∧
      later.Spares heap stock.live ∧ later.memory.Carries (buffer address).span byte

section Provides

variable {request : Step Heap HeapFault (Option Nat)} {heap : Heap} {stock : Stock}
  {buffer : Nat → Buffer} {byte : Nat → Option UInt8}

theorem Provides.supplies (provides : Provides request heap stock buffer byte) :
    Supplies request heap stock buffer := by
  rcases provides with refused | ⟨address, later, next, done, holds, live, _⟩
  · exact Or.inl refused
  · exact Or.inr ⟨address, later, next, done, holds, live⟩

theorem Supplies.provides (supplies : Supplies request heap stock buffer)
    (spares : (request.outcome heap).2.Spares heap stock.live) :
    Provides request heap stock buffer fun _ => none := by
  rcases supplies with refused | ⟨address, later, next, done, holds, live⟩
  · exact Or.inl refused
  · rw [done] at spares
    exact Or.inr ⟨address, later, next, done, holds, live, spares, Memory.carries_none⟩

theorem provides_backed (provides : Provides request heap stock buffer byte)
    (category : MemoryCategory) :
    Provides (MemoryServices.backed category request) heap stock buffer byte := by
  simp only [MemoryServices.backed]
  split
  · exact provides
  · exact Or.inl rfl

theorem Provides.congr {other : Nat → Option UInt8}
    (provides : Provides request heap stock buffer byte)
    (same : ∀ address offset, (buffer address).span.start + offset < (buffer address).span.stop →
      byte offset = other offset) : Provides request heap stock buffer other := by
  rcases provides with refused | ⟨address, later, next, done, holds, live, spares, carries⟩
  · exact Or.inl refused
  · refine Or.inr ⟨address, later, next, done, holds, live, spares, ?_⟩
    intro offset inside value known
    exact carries offset inside value ((same address offset inside).trans known)

theorem Provides.filled {filling : Step Heap HeapFault (Option Nat)} {bytes : Nat}
    (provides : Provides request heap stock (fun address => .pool address bytes) byte)
    (contents : List UInt8) (fits : contents.length ≤ bytes)
    (refused : request.outcome heap = (.ok none, heap) →
      filling.outcome heap = (.ok none, heap))
    (filled : ∀ address later, request.outcome heap = (.ok (some address), later) →
      filling.outcome heap = (.ok (some address),
        later.withMemory (later.memory.writeBytes address contents))) :
    Provides filling heap stock (fun address => .pool address bytes) fun offset =>
      contents[offset]? := by
  rcases provides with none | ⟨address, later, next, done, holds, live, spares, _⟩
  · exact Or.inl (refused none)
  · have within : Span.Within ⟨address, address + contents.length⟩
        (Buffer.pool address bytes).span := ⟨Nat.le_refl _, Nat.add_le_add_left fits address⟩
    refine Or.inr ⟨address, _, next, filled address later done, ?_, live, ?_, ?_⟩
    · exact holds.written (live ▸ List.mem_cons_self) address contents within
    · exact (holds.spares_written live within).trans spares
    · exact Memory.carries_writeBytes

end Provides

namespace Holds

variable {heap : Heap} {stock : Stock}

theorem listed_free (holds : heap.Holds stock) {block : Nat} (listed : heap.ListsFree block) :
    ∃ sizeClass, block ∈ stock.chains sizeClass := by
  induction listed with
  | head sizeClass nonempty =>
      obtain ⟨rest, chain⟩ := (holds.linked sizeClass).cons_of_ne_zero nonempty
      exact ⟨sizeClass, by rw [chain]; exact List.mem_cons_self⟩
  | link _ more ih =>
      obtain ⟨sizeClass, member⟩ := ih
      exact ⟨sizeClass, (holds.linked sizeClass).link member more⟩

theorem span_apart (holds : heap.Holds stock) {buffer : Buffer} {rest : List Buffer}
    (first : stock.live = buffer :: rest) :
    ∀ other ∈ rest, buffer.span.Apart other.span := by
  intro other member
  have apart := holds.live_apart
  rw [first, List.pairwise_cons] at apart
  exact ((apart.1 other member).mono_left
    (holds.span_within_extent (first ▸ List.mem_cons_self))).mono_right
    (holds.span_within_extent (first ▸ List.mem_cons_of_mem _ member))

theorem create (region : AddressRange) (memory : Memory) :
    (Heap.create region memory).Holds ⟨[], [], fun _ => []⟩ where
  shape := PagePool.shape_create region memory
  records := PagePool.records_create region memory
  linked sizeClass := by
    show (Vector.replicate 7 0)[sizeClass] = 0
    simp
  stocked _ := List.Perm.refl _
  headers _ _ member := by cases member

theorem allocatePages (holds : heap.Holds stock) (count : Nat) :
    Supplies (Heap.allocatePages count) heap stock fun base => .pages base count := by
  rcases allocatePages_cases count heap with refused | ⟨index, vacant, granted⟩
  · exact Or.inl refused
  · exact Or.inr ⟨_, _, _, granted, holds.granted vacant, rfl⟩

theorem backedPages (holds : heap.Holds stock) (category : MemoryCategory) (count : Nat) :
    Provides (MemoryServices.allocatePages category count) heap stock
      (fun base => .pages base count) fun _ => none :=
  provides_backed ((holds.allocatePages count).provides (holds.spares_allocatePages count)) category

theorem allocatePool (holds : heap.Holds stock) (category : MemoryCategory) (bytes : Nat) :
    Provides (MemoryServices.allocatePool category bytes) heap stock
      (fun address => .pool address bytes) fun _ => none :=
  provides_backed ((holds.allocateBytes bytes).provides (holds.spares_allocateBytes bytes)) category

theorem allocateCopyPool (holds : heap.Holds stock) (category : MemoryCategory)
    (source : List UInt8) :
    Provides (MemoryServices.allocateCopyPool category source) heap stock
      (fun address => .pool address source.length) fun offset => source[offset]? := by
  refine (holds.allocatePool category source.length).filled source (Nat.le_refl _) ?_ ?_
  · intro refused
    rw [MemoryServices.outcome_allocateCopyPool, refused]
  · intro address later done
    rw [MemoryServices.outcome_allocateCopyPool, done]

theorem allocateZeroPool (holds : heap.Holds stock) (category : MemoryCategory) (bytes : Nat) :
    Provides (MemoryServices.allocateZeroPool category bytes) heap stock
      (fun address => .pool address bytes) fun _ => some 0 := by
  refine ((holds.allocatePool category bytes).filled (List.replicate bytes 0) (by simp)
    ?_ ?_).congr ?_
  · intro refused
    rw [MemoryServices.outcome_allocateZeroPool, refused]
  · intro address later done
    rw [MemoryServices.outcome_allocateZeroPool, done]
  · intro address offset inside
    exact List.getElem?_replicate_of_lt (Nat.lt_of_add_lt_add_left inside)

theorem reallocateNone (holds : heap.Holds stock) (category : MemoryCategory)
    (oldSize newSize : Nat) :
    Provides (MemoryServices.reallocatePool category oldSize newSize none) heap stock
      (fun address => .pool address newSize) fun _ => some 0 := by
  simp only [Provides, MemoryServices.outcome_reallocatePool_none]
  exact holds.allocateZeroPool category newSize

theorem read_copied {memory : Memory} {old new count size index : Nat}
    (zeroed : memory.Carries (Buffer.pool new size).span fun _ => some 0)
    (inside : index < size) :
    (memory.writeBytes new (memory.readBytes old (min count size))).read (new + index) =
      if index < count then memory.read (old + index) else 0 := by
  by_cases early : index < count
  · rw [if_pos early, Memory.read_writeBytes_inside _ _ _ _
      (by rw [Memory.length_readBytes]; omega), Memory.getElem_readBytes]
  · rw [if_neg early, Memory.read_writeBytes_outside _ _ _ _
      (by rw [Memory.length_readBytes]; omega)]
    exact zeroed index (Nat.add_lt_add_left inside new) 0 rfl

/-- Reallocating a live buffer never stops: it is refused without a change, or the buffer is live
at a new place, apart from all that was live, and no longer at the old one. It has the bytes that
were to be kept and zeros behind them. -/
theorem reallocatePool (holds : heap.Holds stock) {old bytes oldSize : Nat} {rest : List Buffer}
    (first : stock.live = .pool old bytes :: rest) (small : oldSize ≤ bytes)
    (category : MemoryCategory) (newSize : Nat) :
    (MemoryServices.reallocatePool category oldSize newSize (some old)).outcome heap =
        (.ok none, heap) ∨
      ∃ address later next,
        (MemoryServices.reallocatePool category oldSize newSize (some old)).outcome heap =
          (.ok (some address), later) ∧
        later.Holds next ∧ next.live = .pool address newSize :: rest ∧ later.Spares heap rest ∧
        (∀ other ∈ stock.live, (Buffer.pool address newSize).span.Apart other.span) ∧
        ∀ index, index < newSize → later.memory.read (address + index) =
          if index < oldSize then heap.memory.read (old + index) else 0 := by
  simp only [MemoryServices.outcome_reallocatePool_some]
  rcases holds.allocateZeroPool category newSize with
    refused | ⟨address, later, next, done, supplied, live, spares, zeroed⟩
  · left
    rw [refused]
  · right
    have fresh := supplied.span_apart live
    rw [first] at live spares
    have inOld : .pool old bytes ∈ next.live := by
      rw [live]
      exact List.mem_cons_of_mem _ List.mem_cons_self
    have inNew : .pool address newSize ∈ next.live := by
      rw [live]
      exact List.mem_cons_self
    have ends : ¬ UInt64.size ≤ old + oldSize := by
      have within := (supplied.span_within_extent inOld).trans (supplied.extent_within inOld).1
      have bounded := supplied.shape.bounded
      simp only [Span.Within, Buffer.span, PagePool.span] at within
      omega
    have within : Span.Within ⟨address,
        address + (later.memory.readBytes old (min oldSize newSize)).length⟩
        (Buffer.pool address newSize).span :=
      ⟨Nat.le_refl _, by simp only [Memory.length_readBytes, Buffer.span]; omega⟩
    have copied := supplied.written inNew address _ within
    have swapped : next.live.Perm (.pool old bytes :: .pool address newSize :: rest) := by
      rw [live]
      exact List.Perm.swap _ _ _
    have freeing := (copied.perm swapped).spares_freeBytes rfl
    obtain ⟨last, final, freed, kept, finalLive⟩ := (copied.perm swapped).freeBytes rfl
    rw [freed] at freeing
    refine ⟨address, last, final, ?_, kept, finalLive, ?_, fresh, ?_⟩
    · simp only [done, if_neg ends, freed]
    · refine (freeing.mono (List.subset_cons_self _ _)).trans ?_
      exact ((supplied.spares_written live within).trans spares).mono (List.subset_cons_self _ _)
    · intro index inside
      have new : (Buffer.pool address newSize).span.Covers (address + index) :=
        ⟨Nat.le_add_right _ _, Nat.add_lt_add_left inside address⟩
      rw [freeing.kept _ (Or.inl ⟨_, List.mem_cons_self, new⟩), withMemory_memory,
        read_copied zeroed inside]
      split
      · rename_i early
        have mine : (Buffer.pool old bytes).span.Covers (old + index) :=
          ⟨Nat.le_add_right _ _, Nat.add_lt_add_left (by omega) old⟩
        exact spares.kept _ (Or.inl ⟨_, List.mem_cons_self, mine⟩)
      · rfl

end Holds

end Heap

end PartitionBoot
