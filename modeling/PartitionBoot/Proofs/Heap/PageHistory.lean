import Mathlib.Data.List.Nodup
import Mathlib.Data.List.Perm.Basic
import PartitionBoot.Proofs.Heap.BoundedBitmaps

/-!
Histories of page calls. After any calls that do not stop, the bitmaps record exactly the grants
that the answers handed out and no free took back, so a lookup knows every outstanding grant, no
operation leaves the bitmaps, and grants may be freed in any order.
-/

namespace PartitionBoot

namespace Memory

theorem read_eq_of_testBit {memory other : Memory} {bitmap index : Nat}
    (bits : ∀ bit, bit < 8 →
      memory.testBit bitmap (8 * index + bit) = other.testBit bitmap (8 * index + bit)) :
    memory.read (bitmap + index) = other.read (bitmap + index) := by
  apply UInt8.toNat.inj
  apply Nat.eq_of_testBit_eq
  intro bit
  by_cases low : bit < 8
  · have same := bits bit low
    simp only [testBit] at same
    rwa [show (8 * index + bit) / 8 = index by omega,
      show (8 * index + bit) % 8 = bit by omega] at same
  · have large : 2 ^ 8 ≤ 2 ^ bit := Nat.pow_le_pow_right (by decide) (by omega)
    rw [Nat.testBit_lt_two_pow (Nat.lt_of_lt_of_le (UInt8.toNat_lt _) large),
      Nat.testBit_lt_two_pow (Nat.lt_of_lt_of_le (UInt8.toNat_lt _) large)]

end Memory

namespace Heap

structure Same (left right : Heap) : Prop where
  kept : left.toAllocator = right.toAllocator
  contents : ∀ address, left.memory.read address = right.memory.read address

/-- A heap that differs from another one by the grants its bitmaps record. -/
structure Tracks (start heap : Heap) (grants : List Grant) : Prop where
  shape : heap.pages.Shape
  pool : heap.pages = { start.pages with free := heap.pages.free }
  lists : heap.freeLists = start.freeLists
  records : heap.pages.Records heap.memory grants
  outside : ∀ address, address < start.pages.bitmap ∨
    start.pages.bitmap + start.pages.slots / 4 ≤ address →
      heap.memory.read address = start.memory.read address

variable {start heap : Heap} {grants : List Grant}

theorem tracks_create (range : AddressRange) (memory : Memory) :
    (create range memory).Tracks (create range memory) [] where
  shape := PagePool.shape_create range memory
  pool := by
    generalize (create range memory).pages = pool
    rfl
  lists := rfl
  records := PagePool.records_create range memory
  outside _ _ := rfl

theorem Tracks.slots (tracks : start.Tracks heap grants) :
    start.pages.slots = heap.pages.slots := by
  rw [tracks.pool]
  rfl

theorem Tracks.read_stamp (tracks : start.Tracks heap grants) {index pages address : Nat}
    {value : Bool} (positive : 0 < pages) (inside : index + pages ≤ heap.pages.total)
    (outside : address < start.pages.bitmap ∨
      start.pages.bitmap + start.pages.slots / 4 ≤ address) :
    (heap.pages.stamp heap.memory index pages value).read address =
      start.memory.read address := by
  have covered := tracks.shape.covered
  have bitmap : heap.pages.bitmap = start.pages.bitmap := by rw [tracks.pool]
  rw [tracks.slots, PagePool.slots, if_neg (by omega)] at outside
  rw [PagePool.read_stamp_outside (by omega) positive (by omega)]
  apply tracks.outside
  rw [tracks.slots, PagePool.slots, if_neg (by omega)]
  exact outside

theorem Tracks.granted (tracks : start.Tracks heap grants) {index pages : Nat}
    (vacant : heap.pages.Vacant heap.memory index pages) :
    start.Tracks (heap.granted index pages) (⟨heap.pages.address index, pages⟩ :: grants) where
  shape := ⟨tracks.shape.covered, tracks.shape.room, tracks.shape.aligned, tracks.shape.bounded⟩
  pool := congrArg (fun pool : PagePool =>
    { pool with free := (heap.granted index pages).pages.free }) tracks.pool
  lists := tracks.lists
  records := tracks.records.mark tracks.shape vacant
  outside _ outside := tracks.read_stamp vacant.positive vacant.inside outside

theorem Tracks.released (tracks : start.Tracks heap grants) {base pages : Nat}
    (member : ⟨base, pages⟩ ∈ grants) :
    ∃ later, (freePages base pages).outcome heap = (.ok (), later) ∧
      start.Tracks later (grants.erase ⟨base, pages⟩) := by
  obtain ⟨index, place, positive, inside⟩ := tracks.records.placed _ member
  change base = heap.pages.address index at place
  subst base
  have found := (tracks.records.grantIndex?_iff tracks.shape _ pages index).mpr ⟨rfl, member⟩
  refine ⟨heap.withPages (heap.pages.unmark heap.memory index pages), ?_, ?_, ?_, ?_, ?_, ?_⟩
  · rw [outcome_freePages, found]
  · exact ⟨tracks.shape.covered, tracks.shape.room, tracks.shape.aligned, tracks.shape.bounded⟩
  · exact congrArg (fun pool : PagePool =>
      { pool with free := (heap.pages.unmark heap.memory index pages).1.free }) tracks.pool
  · exact tracks.lists
  · exact tracks.records.unmark tracks.shape member
  · exact fun _ outside => tracks.read_stamp positive inside outside

theorem Tracks.same {left right : Heap} {others : List Grant}
    (tracks : start.Tracks left grants) (other : start.Tracks right others)
    (permuted : grants.Perm others) : left.Same right := by
  have records := tracks.records.perm permuted
  have free : left.pages.free = right.pages.free := by
    have leftFree := records.free
    have rightFree := other.records.free
    have total : left.pages.total = right.pages.total := by rw [tracks.pool, other.pool]
    omega
  have pools : left.pages = right.pages := by
    rw [tracks.pool, other.pool, free]
  constructor
  · have lists : left.freeLists = right.freeLists := tracks.lists.trans other.lists.symm
    change (⟨left.pages, left.freeLists⟩ : Allocator) = ⟨right.pages, right.freeLists⟩
    rw [pools, lists]
  · intro address
    by_cases inside : start.pages.bitmap ≤ address ∧
        address < start.pages.bitmap + start.pages.slots / 4
    · obtain ⟨lower, upper⟩ := inside
      have slots := tracks.slots
      have bitmap : left.pages.bitmap = start.pages.bitmap := by rw [tracks.pool]
      have nonempty : left.pages.total ≠ 0 := by
        intro empty
        rw [slots, PagePool.slots, if_pos empty] at upper
        omega
      have whole : left.pages.slots = 64 * left.pages.words := if_neg nonempty
      -- The byte lies in one of the two bitmaps, whose bits the grants decide.
      by_cases first : address < start.pages.bitmap + 8 * left.pages.words
      · rw [show address = start.pages.bitmap + (address - start.pages.bitmap) by omega, ← bitmap]
        apply Memory.read_eq_of_testBit
        intro bit low
        rw [Bool.eq_iff_iff]
        have leftBit := records.used (8 * (address - left.pages.bitmap) + bit) (by omega)
        have rightBit := other.records.used (8 * (address - left.pages.bitmap) + bit)
          (by rw [← pools]; omega)
        rw [← pools] at rightBit
        exact leftBit.trans rightBit.symm
      · rw [show address = left.pages.heads + (address - left.pages.heads) by
          simp only [PagePool.heads]
          omega]
        apply Memory.read_eq_of_testBit
        intro bit low
        have heads : left.pages.heads = left.pages.bitmap + 8 * left.pages.words := rfl
        rw [Bool.eq_iff_iff]
        have leftBit := records.heads (8 * (address - left.pages.heads) + bit) (by omega)
        have rightBit := other.records.heads (8 * (address - left.pages.heads) + bit)
          (by rw [← pools]; omega)
        rw [← pools] at rightBit
        exact leftBit.trans rightBit.symm
    · rw [tracks.outside address (by omega), other.outside address (by omega)]

def freeAll : List Grant → Step Heap HeapFault Unit
  | [] => pure ()
  | grant :: rest => do
      freePages grant.base grant.count
      freeAll rest

theorem Tracks.freeAll {batch : List Grant} (tracks : start.Tracks heap grants)
    (distinct : batch.Nodup) (members : ∀ grant ∈ batch, grant ∈ grants) :
    ∃ later, (freeAll batch).outcome heap = (.ok (), later) ∧
      start.Tracks later (grants.diff batch) := by
  induction batch generalizing heap grants with
  | nil => exact ⟨heap, rfl, tracks⟩
  | cons grant rest ih =>
      obtain ⟨fresh, distinct⟩ := List.nodup_cons.mp distinct
      obtain ⟨middle, freed, tracksMiddle⟩ :=
        tracks.released (members grant List.mem_cons_self)
      have left : ∀ other ∈ rest, other ∈ grants.erase grant := by
        intro other member
        rw [tracks.records.nodup.mem_erase_iff]
        refine ⟨?_, members other (List.mem_cons_of_mem _ member)⟩
        rintro rfl
        exact fresh member
      obtain ⟨later, finished, tracksLater⟩ := ih tracksMiddle distinct left
      refine ⟨later, ?_, ?_⟩
      · rw [Heap.freeAll, Step.outcome_bind_ok freed]
        exact finished
      · rw [List.diff_cons]
        exact tracksLater

end Heap

inductive PageCall where
  | allocate (pages : UInt64)
  | allocateAligned (pages alignment : UInt64)
  | free (base pages : UInt64)

namespace PageCall

def step : PageCall → Step Heap HeapFault (Option Nat)
  | allocate pages => Heap.allocatePages pages.toNat
  | allocateAligned pages alignment => Heap.allocateAlignedPages pages.toNat alignment.toNat
  | free base pages => do
      Heap.freePages base.toNat pages.toNat
      pure none

def bounded? (heap : Heap) : PageCall → Option (Except HeapFault (Option Nat) × Heap)
  | allocate pages => heap.allocatePages? pages.toNat
  | allocateAligned pages alignment => heap.allocateAlignedPages? pages.toNat alignment.toNat
  | free base pages => do
      let (result, later) ← heap.freePages? base.toNat pages.toNat
      some (result.map fun _ => none, later)

def grantsAfter (call : PageCall) (answer : Option Nat) (grants : List Grant) : List Grant :=
  match call, answer with
  | allocate pages, some base => ⟨base, pages.toNat⟩ :: grants
  | allocateAligned pages _, some base => ⟨base, pages.toNat⟩ :: grants
  | free base pages, _ => grants.erase ⟨base.toNat, pages.toNat⟩
  | _, none => grants

theorem bounded?_eq {heap : Heap} (shape : heap.pages.Shape) (call : PageCall) :
    call.bounded? heap = some (call.step.outcome heap) := by
  cases call with
  | allocate pages => exact Heap.allocatePages?_eq shape _
  | allocateAligned pages alignment => exact Heap.allocateAlignedPages?_eq shape _ _
  | free base pages =>
      simp only [bounded?, step, Heap.freePages?_eq shape, Step.outcome_bind]
      rcases (Heap.freePages base.toNat pages.toNat).outcome heap with ⟨error | done, later⟩ <;> rfl

end PageCall

abbrev PageHistory : Type := List (PageCall × Option Nat)

def PageHistory.outstanding : PageHistory → List Grant
  | [] => []
  | (call, answer) :: past => call.grantsAfter answer (PageHistory.outstanding past)

/-- Calls from a new pool on, none of which stops, and the heap they lead to. -/
inductive PageRun (range : AddressRange) (memory : Memory) : PageHistory → Heap → Prop
  | start : PageRun range memory [] (Heap.create range memory)
  | call {past heap call answer} : PageRun range memory past heap →
      (call.step.outcome heap).1 = .ok answer →
      PageRun range memory ((call, answer) :: past) (call.step.outcome heap).2

variable {range : AddressRange} {memory : Memory}

theorem PageCall.tracks {start heap : Heap} {grants : List Grant} {call : PageCall}
    {answer : Option Nat} (tracks : start.Tracks heap grants)
    (answered : (call.step.outcome heap).1 = .ok answer) :
    start.Tracks (call.step.outcome heap).2 (call.grantsAfter answer grants) := by
  cases call with
  | allocate pages =>
      simp only [step] at answered ⊢
      rcases Heap.allocatePages_cases pages.toNat heap with refused | ⟨index, vacant, granted⟩
      · rw [refused] at answered ⊢
        cases answered
        exact tracks
      · rw [granted] at answered ⊢
        cases answered
        exact tracks.granted vacant
  | allocateAligned pages alignment =>
      simp only [step] at answered ⊢
      rcases Heap.allocateAlignedPages_cases tracks.shape pages.toNat alignment.toNat with
        refused | ⟨fault, stopped⟩ | ⟨index, vacant, granted⟩
      · rw [refused] at answered ⊢
        cases answered
        exact tracks
      · rw [stopped] at answered
        cases answered
      · rw [granted] at answered ⊢
        cases answered
        exact tracks.granted vacant
  | free base pages =>
      simp only [step] at answered ⊢
      by_cases member : ⟨base.toNat, pages.toNat⟩ ∈ grants
      · obtain ⟨later, freed, tracksLater⟩ := tracks.released member
        rw [Step.outcome_bind_ok freed] at answered ⊢
        exact tracksLater
      · have absent := (tracks.records.grantIndex?_eq_none_iff tracks.shape _ _).mpr member
        have stopped := Heap.outcome_freePages base.toNat pages.toNat heap
        rw [absent] at stopped
        rw [Step.outcome_bind_error stopped] at answered
        cases answered

theorem PageRun.tracks {past : PageHistory} {heap : Heap} (run : PageRun range memory past heap) :
    (Heap.create range memory).Tracks heap past.outstanding := by
  induction run with
  | start => exact Heap.tracks_create range memory
  | call _ answered ih => exact PageCall.tracks ih answered

theorem free_stops_iff {start heap : Heap} {grants : List Grant} (tracks : start.Tracks heap grants)
    (base pages : UInt64) :
    (∃ fault, ((PageCall.free base pages).step.outcome heap).1 = .error fault) ↔
      ⟨base.toNat, pages.toNat⟩ ∉ grants := by
  rw [← tracks.records.grantIndex?_eq_none_iff tracks.shape, PageCall.step]
  simp only [Step.outcome_bind, Heap.outcome_freePages]
  cases heap.pages.grantIndex? heap.memory base.toNat pages.toNat with
  | none => simp
  | some index => simp

/-- After any calls that do not stop the bitmaps record the outstanding grants and nothing else:
a lookup finds exactly these, only a free that names none of them stops, no call leaves the
bitmaps, equal grants mean equal heaps, and grants may be freed in any order, all of them down to
the heap of the start. -/
theorem bitmaps_record_outstanding_grants {past : PageHistory} {heap : Heap}
    (run : PageRun range memory past heap) :
    heap.pages.Shape ∧ heap.pages.Records heap.memory past.outstanding ∧
    (∀ base pages : UInt64,
      (heap.pages.isGranted heap.memory base.toNat pages.toNat = true ↔
        ⟨base.toNat, pages.toNat⟩ ∈ past.outstanding) ∧
      ((∃ fault, ((PageCall.free base pages).step.outcome heap).1 = .error fault) ↔
        ⟨base.toNat, pages.toNat⟩ ∉ past.outstanding)) ∧
    (∀ call : PageCall, call.bounded? heap = some (call.step.outcome heap)) ∧
    (∀ (other : PageHistory) (reached : Heap), PageRun range memory other reached →
      (∀ grant, grant ∈ other.outstanding ↔ grant ∈ past.outstanding) → heap.Same reached) ∧
    (∀ batch : List Grant, batch.Nodup → (∀ grant ∈ batch, grant ∈ past.outstanding) →
      ∃ later, (Heap.freeAll batch).outcome heap = (.ok (), later) ∧
        (∀ order : List Grant, order.Perm batch →
          ∃ last, (Heap.freeAll order).outcome heap = (.ok (), last) ∧ later.Same last) ∧
        (batch.Perm past.outstanding → later.Same (Heap.create range memory))) := by
  have tracks := run.tracks
  refine ⟨tracks.shape, tracks.records, ?_, PageCall.bounded?_eq tracks.shape, ?_, ?_⟩
  · intro base pages
    refine ⟨?_, free_stops_iff tracks base pages⟩
    rw [PagePool.isGranted, Option.isSome_iff_ne_none, ne_eq,
      tracks.records.grantIndex?_eq_none_iff tracks.shape, Decidable.not_not]
  · intro other reached otherRun sameGrants
    have otherTracks := otherRun.tracks
    refine tracks.same otherTracks ?_
    rw [List.perm_ext_iff_of_nodup tracks.records.nodup otherTracks.records.nodup]
    exact fun grant => (sameGrants grant).symm
  · intro batch distinct members
    obtain ⟨later, freed, tracksLater⟩ := tracks.freeAll distinct members
    refine ⟨later, freed, ?_, ?_⟩
    · intro order permuted
      obtain ⟨last, freedToo, tracksLast⟩ := tracks.freeAll
        (permuted.nodup_iff.mpr distinct) fun grant member =>
          members grant (permuted.mem_iff.mp member)
      refine ⟨last, freedToo, tracksLater.same tracksLast ?_⟩
      rw [List.Perm.diff_left _ permuted]
    · intro whole
      refine tracksLater.same (Heap.tracks_create range memory) ?_
      have none : past.outstanding.diff batch = [] := by
        rw [List.eq_nil_iff_forall_not_mem]
        intro grant member
        rw [List.Nodup.mem_sdiff_iff tracks.records.nodup, whole.mem_iff] at member
        exact member.2 member.1
      rw [none]

/-- Two neighbouring grants, of which the upper one was freed: the lower one is found, the span of
both is not, and freeing the lower one restores the heap of the start. -/
theorem bitmaps_record_lower_grant :
    let past : PageHistory := [(.free 0x4000 2, none), (.allocate 2, some 0x2000),
      (.allocate 2, some 0x4000)]
    ∃ heap, PageRun ⟨0x1000, 0x5000⟩ Memory.zeroed past heap ∧
      heap.pages.Records heap.memory [⟨0x2000, 2⟩] ∧
      heap.pages.isGranted heap.memory 0x2000 2 = true ∧
      heap.pages.isGranted heap.memory 0x2000 4 ≠ true ∧
      ∃ later, (Heap.freeAll [⟨0x2000, 2⟩]).outcome heap = (.ok (), later) ∧
        later.Same (Heap.create ⟨0x1000, 0x5000⟩ Memory.zeroed) := by
  intro past
  have run : PageRun ⟨0x1000, 0x5000⟩ Memory.zeroed past _ :=
    .call (.call (.call .start (by decide +kernel)) (by decide +kernel)) (by decide +kernel)
  obtain ⟨_, records, lookup, _, _, frees⟩ := bitmaps_record_outstanding_grants run
  have outstanding : past.outstanding = [⟨0x2000, 2⟩] := by decide
  rw [outstanding] at records lookup frees
  obtain ⟨later, freed, _, restored⟩ := frees [⟨0x2000, 2⟩] (by decide) (by simp)
  refine ⟨_, run, records, (lookup 0x2000 2).1.mpr (by decide), ?_, later, freed,
    restored (.refl _)⟩
  intro found
  exact absurd ((lookup 0x2000 4).1.mp found) (by decide)

end PartitionBoot
