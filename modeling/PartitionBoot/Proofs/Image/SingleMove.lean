import PartitionBoot.Proofs.Image.Journal
import PartitionBoot.Proofs.Image.LockedPages

/-!
A load calls the relocator at most once. Whether it does so depends on what it was granted and on
where its image is, and what comes of it can be told from what the load returns.
-/

namespace PartitionBoot

namespace Image

variable {τ : Type} {permissions : PagePermissions τ} {relocator : Relocator τ}
  {headerPageSize address : UInt64} {size : Nat} {memory : Memory} {outside : τ} {found : Survey}
  {events : List LoadEvent} {run : Except Stop LoadedImage × Machine τ}

theorem survey_location (surveyed : found.Of (memory.window address.toNat size) address) :
    ∃ location, (Volume.locateImage (memory.window address.toNat size)).result = .ok location ∧
      location.offset + location.size ≤ size ∧
      found.address = address + UInt64.ofNat location.offset ∧
      found.image = memory.window (address.toNat + location.offset) location.size := by
  obtain ⟨location, _, located, cut, start, _⟩ := sight_ok surveyed.seen
  obtain ⟨within, whole⟩ := Window.slice?_eq_some_iff.mp cut
  exact ⟨location, located, within, start, whole⟩

def Course.Still (address : UInt64) (size : Nat) (memory : Memory)
    (run : Except Stop LoadedImage × Machine τ) : Prop :=
  run.2.memory = memory ∧ ∀ loaded, run.1 = .ok loaded → ∃ found : Survey,
    found.Of (memory.window address.toNat size) address ∧ loaded = found.loaded false

structure Course.Moving (permissions : PagePermissions τ) (headerPageSize address : UInt64)
    (size : Nat) (memory : Memory) (outside : τ) (run : Except Stop LoadedImage × Machine τ)
    (found : Survey) (result : Except RelocationError Unit) : Prop where
  surveyed : found.Of (memory.window address.toNat size) address
  addressed : found.Addressed
  displaced : found.Displaced
  granted : ∃ middle, permissions.Grants
    (found.sectionRequests ++ found.unlocking headerPageSize) outside middle
  failed : ∀ error, result = .error error → run.1 = .error (.halfMoved error)
  moved : ∀ loaded, run.1 = .ok loaded → loaded = found.loaded true

theorem Course.calls_cases
    (course : Course permissions relocator headerPageSize address size memory outside events run) :
    LoadEvent.calls events = [] ∧ Course.Still address size memory run ∨
      ∃ found result, LoadEvent.calls events = [⟨found.placed, found.image, result⟩] ∧
        Course.Moving permissions headerPageSize address size memory outside run found result := by
  cases course with
  | unseen lost => exact .inl ⟨rfl, rfl, fun _ good => by cases good⟩
  | refused surveyed split refuses =>
      exact .inl ⟨LoadEvent.calls_asked, rfl, fun _ good => by cases good⟩
  | unaddressed surveyed granted lost =>
      exact .inl ⟨LoadEvent.calls_asked, rfl, fun _ good => by cases good⟩
  | inPlace surveyed granted addressed still =>
      refine .inl ⟨LoadEvent.calls_asked, rfl, fun loaded good => ?_⟩
      cases good
      exact ⟨_, surveyed, rfl⟩
  | @halfMoved found middle reached report later error surveyed granted addressed displaced =>
      rw [preparation_displaced addressed displaced] at granted
      refine .inr ⟨found, .error error, by simp, surveyed, addressed, displaced, ⟨middle, granted⟩,
        ?_, fun _ good => by cases good⟩
      intro other same
      cases same
      rfl
  | @unlocked found middle reached last report later error surveyed granted addressed displaced =>
      rw [preparation_displaced addressed displaced] at granted
      exact .inr ⟨found, .ok (), by simp, surveyed, addressed, displaced, ⟨middle, granted⟩,
        (fun _ failed => by cases failed), fun _ good => by cases good⟩
  | @moved found middle reached last report later surveyed granted addressed displaced =>
      rw [preparation_displaced addressed displaced] at granted
      refine .inr ⟨found, .ok (), by simp, surveyed, addressed, displaced, ⟨middle, granted⟩,
        (fun _ failed => by cases failed), ?_⟩
      intro loaded good
      cases good
      rfl

theorem calls_of_granted {middle : τ}
    (surveyed : found.Of (memory.window address.toNat size) address) (addressed : found.Addressed)
    (granted : permissions.Grants (found.sectionRequests ++ found.unlocking headerPageSize)
      outside middle) (displaced : found.Displaced) :
    LoadEvent.calls
      (loadEvents permissions relocator headerPageSize address size memory outside) ≠ [] := by
  rw [← preparation_displaced addressed displaced] at granted
  obtain ⟨call, rest, run, course⟩ := exists_course_moved _ relocator _ _ _ _ _ surveyed granted
    addressed displaced
  rw [course.loadEvents_eq]
  simp

theorem load_places (fits : address.toNat + size < UInt64.size)
    (surveyed : found.Of (memory.window address.toNat size) address) :
    ∃ location, (Volume.locateImage (memory.window address.toNat size)).result = .ok location ∧
      found.address.toNat = address.toNat + location.offset ∧
      ∀ place, ¬ (memory.window (address.toNat + location.offset) location.size).Covers place →
        ((load permissions relocator headerPageSize address size).outcome
          ⟨memory, outside⟩).2.memory.read place = memory.read place := by
  obtain ⟨location, located, within, start, whole⟩ := survey_location surveyed
  have spared : Spared found.image ((load permissions relocator headerPageSize address
      size).outcome ⟨memory, outside⟩).2 := load_spared surveyed.seen
  rw [whole] at spared
  refine ⟨location, located, ?_, spared⟩
  have limit : UInt64.size = 18446744073709551616 := rfl
  simp only [start, UInt64.toNat_add, UInt64.toNat_ofNat']
  omega

/-- Whatever a volume holds: its load calls the relocator at most once, and it does so exactly if
all sections have addresses, their changes and those that unlock the header page are granted, and
the image is not where it is linked for. The relocator gets the image that was located, and its
error ends the load as a fault. What a load returns lies where the image was located and says
whether it was moved; no byte around it has changed, and none at all if it was not moved. -/
theorem load_moves_once (permissions : PagePermissions τ) (relocator : Relocator τ)
    (headerPageSize address : UInt64) (size : Nat) (memory : Memory) (outside : τ)
    (fits : address.toNat + size < UInt64.size) :
    let volume := memory.window address.toNat size
    let run := (load permissions relocator headerPageSize address size).outcome ⟨memory, outside⟩
    let calls := LoadEvent.calls
      (loadEvents permissions relocator headerPageSize address size memory outside)
    calls.length ≤ 1 ∧
      (calls ≠ [] ↔ ∃ (found : Survey) (reached : τ), found.Of volume address ∧ found.Addressed ∧
        permissions.Grants (found.sectionRequests ++ found.unlocking headerPageSize)
          outside reached ∧
        found.context.imageBase + found.context.headerAdjust ≠ found.address) ∧
      (∀ call ∈ calls,
        (∃ location, (Volume.locateImage volume).result = .ok location ∧
          call.context.imageAddress = address + UInt64.ofNat location.offset ∧
          call.image = memory.window (address.toNat + location.offset) location.size) ∧
        ∀ error, call.result = .error error → run.1 = .error (.halfMoved error)) ∧
      ∀ loaded, run.1 = .ok loaded →
        loaded.context.imageAddress = loaded.dataAddress ∧
        (loaded.relocated = true ↔ calls ≠ []) ∧
        (loaded.relocated = false → run.2.memory = memory) ∧
        ∃ location, (Volume.locateImage volume).result = .ok location ∧
          loaded.dataAddress.toNat = address.toNat + location.offset ∧
          ∀ place, ¬ (memory.window (address.toNat + location.offset) location.size).Covers place →
            run.2.memory.read place = memory.read place := by
  intro volume run calls
  have course := load_course permissions relocator headerPageSize address size memory outside
  have backward : (∃ (found : Survey) (reached : τ), found.Of volume address ∧ found.Addressed ∧
      permissions.Grants (found.sectionRequests ++ found.unlocking headerPageSize)
        outside reached ∧
      found.context.imageBase + found.context.headerAdjust ≠ found.address) → calls ≠ [] := by
    rintro ⟨found, reached, surveyed, addressed, granted, displaced⟩
    exact calls_of_granted surveyed addressed granted displaced
  rcases course.calls_cases with ⟨none, unchanged, still⟩ | ⟨found, result, single, moving⟩
  · have empty : calls = [] := none
    refine ⟨by simp [empty], ⟨fun some => absurd empty some, backward⟩, by simp [empty], ?_⟩
    intro loaded good
    obtain ⟨found, surveyed, rfl⟩ := still loaded good
    exact ⟨rfl, by simp [empty, Survey.loaded], fun _ => unchanged, load_places fits surveyed⟩
  · have one : calls = [⟨found.placed, found.image, result⟩] := single
    obtain ⟨middle, granted⟩ := moving.granted
    refine ⟨by simp [one], ⟨fun _ => ?_, backward⟩, ?_, ?_⟩
    · exact ⟨found, middle, moving.surveyed, moving.addressed, granted, moving.displaced⟩
    · intro call made
      rw [one, List.mem_singleton] at made
      subst made
      obtain ⟨location, located, _, start, whole⟩ := survey_location moving.surveyed
      exact ⟨⟨location, located, start, whole⟩, moving.failed⟩
    · intro loaded good
      obtain rfl := moving.moved loaded good
      exact ⟨rfl, by simp [one, Survey.loaded], (fun stayed => by cases stayed),
        load_places fits moving.surveyed⟩

def dataSectionMemory : Memory :=
  Memory.holding [(0x10f5c, Contents.ofBytes (oneSectionVolume 0xc0000040).bytes)]

def dataSectionLoad : Except Stop LoadedImage × Machine PageTable :=
  (load PageTable.conduit.permissions Relocator.fixups 0x1000 0x10f5c
    (oneSectionVolume 0xc0000040).bytes.length).outcome
      ⟨dataSectionMemory, ⟨0x10001, 1, true, ∅⟩⟩

def dataSectionCalls : List MoveCall :=
  LoadEvent.calls (loadEvents PageTable.conduit.permissions Relocator.fixups 0x1000 0x10f5c
    (oneSectionVolume 0xc0000040).bytes.length dataSectionMemory ⟨0x10001, 1, true, ∅⟩)

/-- An image with one section of data is moved by one call, and the byte in front of it keeps its
value. -/
theorem load_moves_data_section_once :
    (0x10f5c : UInt64).toNat + (oneSectionVolume 0xc0000040).bytes.length < UInt64.size ∧
      ∃ loaded reached call, dataSectionLoad = (.ok loaded, reached) ∧
        dataSectionCalls = [call] ∧ call.context.imageAddress = 0x10fb0 ∧
        loaded.relocated = true ∧ loaded.context.imageAddress = 0x10fb0 ∧
        reached.memory.read 0x10faf = dataSectionMemory.read 0x10faf := by
  have fits : (0x10f5c : UInt64).toNat + (oneSectionVolume 0xc0000040).bytes.length <
      UInt64.size := by
    decide +kernel
  have place : (Volume.locateImage (dataSectionMemory.window (0x10f5c : UInt64).toNat
      (oneSectionVolume 0xc0000040).bytes.length)).result.toOption.map (·.offset) = some 0x54 := by
    decide +kernel
  have moved : dataSectionLoad.1.toOption.map (·.relocated) = some true := by decide +kernel
  rcases done : dataSectionLoad with ⟨stop | loaded, reached⟩
  · rw [done] at moved
    cases moved
  rw [done] at moved
  have relocated : loaded.relocated = true := Option.some.inj moved
  obtain ⟨few, -, each, placed⟩ := load_moves_once PageTable.conduit.permissions Relocator.fixups
    0x1000 0x10f5c (oneSectionVolume 0xc0000040).bytes.length dataSectionMemory
    ⟨0x10001, 1, true, ∅⟩ fits
  obtain ⟨context, called, -, location, located, start, spared⟩ :=
    placed loaded (congrArg Prod.fst done)
  rw [located] at place
  have offset : location.offset = 0x54 := Option.some.inj place
  rw [offset] at start spared
  obtain ⟨call, single⟩ : ∃ call, dataSectionCalls = [call] := by
    have some : dataSectionCalls ≠ [] := called.mp relocated
    exact List.length_eq_one_iff.mp (Nat.le_antisymm few (List.length_pos_iff.mpr some))
  have made : call ∈ dataSectionCalls := by simp [single]
  obtain ⟨⟨other, found, passed, -⟩, -⟩ := each call made
  cases located.symm.trans found
  refine ⟨fits, loaded, reached, call, rfl, single, ?_, relocated, ?_, ?_⟩
  · rw [passed, offset]
    rfl
  · rw [context]
    exact UInt64.toNat_inj.mp start
  · refine (congrArg (fun run => run.2.memory.read 0x10faf) done).symm.trans (spared 0x10faf ?_)
    intro covered
    have below : 0x10fb0 ≤ 0x10faf := covered.1
    exact absurd below (by decide)

end Image

end PartitionBoot
