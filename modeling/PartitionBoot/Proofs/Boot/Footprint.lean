import PartitionBoot.Boot.Record
import PartitionBoot.Proofs.Boot.Started
import PartitionBoot.Proofs.Heap.Inventory
import PartitionBoot.Proofs.Image.Confined

/-!
What a boot asks for and what it writes to. Nothing but the version is asked for until an image has
been found and laid out, and memory changes in two places only: in that image and in the bitmaps of
the heap.
-/

namespace PartitionBoot

variable {σ : Type}

def Platform.recorded (conduit : Conduit σ) (permissions : PagePermissions (Record σ)) :
    Platform (Record σ) where
  conduit := Record.conduit conduit
  permissions := Record.permissions permissions
  relocator := Record.relocator .fixups

namespace Boot

/-- The part of a boot between the negotiation and its first request. -/
def survey (memory : Memory) (config : BootConfig) (handOffAddress : UInt64) :
    Report BootFailure Sighting := do
  let (_, manifest) ← findManifest memory config handOffAddress
  let (layout, _) ← manifest.parse
  let volume ← Volume.ofAddress memory layout.imageBase
  Image.sight volume layout.imageBase

/-- The version was asked for, and there is no trace of anything else. -/
structure Untouched (config : BootConfig) (before after : Partition (Record σ)) : Prop where
  memory : after.memory = before.memory
  allocator : after.allocator = before.allocator
  calls : after.outside.calls = before.outside.calls ++
    [Registers.call FunctionId.version [config.version.encode.toUInt64]]
  changes : after.outside.changes = before.outside.changes
  moves : after.outside.moves = before.outside.moves

/-- The allocator of a partition that started keeps its bitmaps at the first page boundary of the
heap, and the byte at the address is one of theirs. -/
def InBitmaps (booted : Partition σ) (context : BootContext) (address : Nat) : Prop :=
  ∃ region allocator, context.layout.heap = some region ∧ booted.allocator = some allocator ∧
    allocator.pages.bitmap = alignUp region.base.toNat Page.size ∧
    allocator.pages.bitmaps.Covers address

variable {platform : Platform σ} {config : BootConfig} {handOffAddress : UInt64}
  {version : Version} {partition reached : Partition σ}

theorem query_reaches (conduit : Conduit σ) (wanted : Version) (state : σ) :
    ((Negotiation.query conduit wanted).outcome state).2 =
      (conduit.call (Registers.call FunctionId.version [wanted.encode.toUInt64]) state).2 := by
  refine Step.outcome_bind_still fun response reached => ?_
  dsimp only
  split
  · rfl
  · rfl

theorem negotiate_reaches (platform : Platform σ) (config : BootConfig)
    (partition : Partition σ) :
    ((negotiate platform config).outcome partition).2 =
      { partition with
        outside := (platform.conduit.call
          (Registers.call FunctionId.version [config.version.encode.toUInt64])
          partition.outside).2 } := by
  have answered : ((Negotiation.negotiate platform.conduit config.version).outcome
      partition.outside).2 = _ :=
    (Step.outcome_bind_still fun _ _ => rfl).trans (query_reaches _ _ _)
  rw [← answered]
  refine Step.outcome_bind_still fun negotiation reached => ?_
  split
  · rfl
  · rfl

theorem negotiate_keeps {result : Except BootFailure Negotiation}
    (answered : (negotiate platform config).outcome partition = (result, reached)) :
    reached.memory = partition.memory := by
  have same := congrArg Partition.memory (negotiate_reaches platform config partition)
  rw [answered] at same
  exact same

theorem survey_ok {memory : Memory} {sighting : Sighting}
    (seen : (survey memory config handOffAddress).result = .ok sighting) :
    ∃ address manifest layout granule volume,
      (findManifest memory config handOffAddress).result = .ok (address, manifest) ∧
      manifest.parse.result = .ok (layout, granule) ∧
      (Volume.ofAddress memory layout.imageBase).result = .ok volume ∧
      (Image.sight (memory.window layout.imageBase.toNat volume.size)
        layout.imageBase).result = .ok sighting := by
  obtain ⟨⟨address, manifest⟩, found, seen⟩ := Report.bind_ok_iff.mp seen
  obtain ⟨⟨layout, granule⟩, parsed, seen⟩ := Report.bind_ok_iff.mp seen
  obtain ⟨volume, opened, seen⟩ := Report.bind_ok_iff.mp seen
  rw [volume_ok opened] at seen
  exact ⟨address, manifest, layout, granule, volume, found, parsed, opened, seen⟩

theorem survey_covers {memory : Memory} {sighting : Sighting} {place : UInt64}
    (seen : (survey memory config handOffAddress).result = .ok sighting)
    (inside : sighting.image.Covers place.toNat) : sighting.Covers place := by
  obtain ⟨_, _, _, _, _, _, _, _, sighted⟩ := survey_ok seen
  exact Image.sight_covers sighted inside

theorem start_stops {failure : BootFailure}
    (unseen : (survey partition.memory config handOffAddress).result = .error failure) :
    (start platform config handOffAddress version).outcome partition =
      (.error (.failed failure), partition) := by
  rw [start, Step.outcome_bind_get]
  obtain lost | ⟨⟨address, manifest⟩, found, unseen⟩ := Report.bind_error_iff.mp unseen
  · exact Step.outcome_bind_orStop_error _ lost
  rw [Step.outcome_bind_orStop_ok _ found]
  obtain malformed | ⟨⟨layout, granule⟩, parsed, unseen⟩ := Report.bind_error_iff.mp unseen
  · exact Step.outcome_bind_orStop_error _ malformed
  rw [Step.outcome_bind_orStop_ok _ parsed, Step.outcome_bind_get]
  obtain closed | ⟨volume, opened, unseen⟩ := Report.bind_error_iff.mp unseen
  · exact Step.outcome_bind_orStop_error _ closed
  rw [Step.outcome_bind_orStop_ok _ opened]
  rw [volume_ok opened] at unseen
  apply Step.outcome_bind_error
  rw [Partition.machineStep, Step.outcome_focus, Image.load_stops unseen]

theorem machineStep_load_confined {address : UInt64} {size place : Nat} {sighting : Sighting}
    {result : Except Stop LoadedImage} {loaded : Partition σ}
    (seen : (Image.sight (partition.memory.window address.toNat size) address).result =
      .ok sighting)
    (loading : (Partition.machineStep (Image.load platform.permissions platform.relocator
      config.headerPageSize address size)).outcome partition = (result, loaded))
    (moved : loaded.memory.read place ≠ partition.memory.read place) :
    sighting.image.Covers place := by
  rw [Partition.machineStep, Step.outcome_focus, Prod.mk.injEq] at loading
  rw [← loading.2] at moved
  obtain ⟨same, again, inside⟩ := Image.load_confined moved
  cases seen.symm.trans again
  exact inside

/-- Every byte that a start changes lies in the image or, when it goes well, in the bitmaps. -/
theorem start_changes {result : Except Stop BootContext} {place : Nat}
    (done : (start platform config handOffAddress version).outcome partition = (result, reached))
    (changed : reached.memory.read place ≠ partition.memory.read place) :
    (∃ sighting, (survey partition.memory config handOffAddress).result = .ok sighting ∧
      sighting.image.Covers place) ∨
    ∃ context, result = .ok context ∧ InBitmaps reached context place := by
  cases told : (survey partition.memory config handOffAddress).result with
  | error failure =>
      rw [start_stops told] at done
      cases done
      exact absurd rfl changed
  | ok sighting =>
      obtain ⟨address, manifest, layout, granule, volume, found, parsed, opened, seen⟩ :=
        survey_ok told
      rw [start, Step.outcome_bind_get, Step.outcome_bind_orStop_ok _ found,
        Step.outcome_bind_orStop_ok _ parsed, Step.outcome_bind_get,
        Step.outcome_bind_orStop_ok _ opened, Step.outcome_bind] at done
      rcases loading : (Partition.machineStep (Image.load platform.permissions platform.relocator
          config.headerPageSize layout.imageBase volume.size)).outcome partition
        with ⟨stop | image, loaded⟩
      all_goals rw [loading] at done
      · cases done
        exact Or.inl ⟨sighting, rfl, machineStep_load_confined seen loading changed⟩
      dsimp only at done
      rw [Step.outcome_bind_get] at done
      rcases sought : (heapRegion (manifest.inMemory loaded.memory) granule).result
        with failure | region
      · rw [Step.outcome_bind_orStop_error _ sought] at done
        cases done
        exact Or.inl ⟨sighting, rfl, machineStep_load_confined seen loading changed⟩
      rw [Step.outcome_bind_orStop_ok _ sought] at done
      cases region with
      | none =>
          cases done
          exact Or.inl ⟨sighting, rfl, machineStep_load_confined seen loading changed⟩
      | some region =>
          cases done
          by_cases kept : (PagePool.create region loaded.memory).2.read place =
            loaded.memory.read place
          · refine Or.inl ⟨sighting, rfl, machineStep_load_confined seen loading ?_⟩
            rw [← kept]
            exact changed
          · right
            refine ⟨_, rfl, region, _, heap_of_region _ (heapRegion_ok sought), rfl, ?_⟩
            exact PagePool.create_changes kept

theorem start_sights {context : BootContext}
    (done : (start platform config handOffAddress version).outcome partition =
      (.ok context, reached)) :
    ∃ sighting, (survey partition.memory config handOffAddress).result = .ok sighting ∧
      sighting.address = context.image.dataAddress ∧ sighting.image.size = context.image.size := by
  cases told : (survey partition.memory config handOffAddress).result with
  | error failure =>
      rw [start_stops told] at done
      cases done
  | ok sighting =>
      obtain ⟨address, manifest, layout, granule, volume, found, parsed, opened, seen⟩ :=
        survey_ok told
      rw [start, Step.outcome_bind_get, Step.outcome_bind_orStop_ok _ found,
        Step.outcome_bind_orStop_ok _ parsed, Step.outcome_bind_get,
        Step.outcome_bind_orStop_ok _ opened] at done
      obtain ⟨image, loaded, loading, done⟩ := Step.outcome_bind_ok_iff.mp done
      rw [Step.outcome_bind_get] at done
      obtain ⟨region, _, done⟩ := Step.outcome_bind_orStop_ok_iff.mp done
      obtain ⟨final, _, _, done⟩ := Step.outcome_bind_ok_iff.mp done
      cases done
      rw [Partition.machineStep, Step.outcome_focus, Prod.mk.injEq] at loading
      obtain ⟨location, _, _, _, located, _, _, _, _, place, _, size⟩ :=
        Image.load_ok (Prod.ext loading.1 rfl)
      obtain ⟨same, _, again, cut, start, _⟩ := Image.sight_ok seen
      cases located.symm.trans again
      obtain ⟨_, whole⟩ := Window.slice?_eq_some_iff.mp cut
      refine ⟨sighting, rfl, start.trans place.symm, ?_⟩
      rw [size, whole]

/-- A boot ends as its negotiation does, with another boot path to take over, or as its start
does. -/
theorem bootstrap_cases {result : Except Stop BootOutcome}
    (done : (bootstrap platform config handOffAddress).outcome partition = (result, reached)) :
    (∃ failure, (negotiate platform config).outcome partition = (.error failure, reached) ∧
        result = .error (.failed failure)) ∨
      (∃ negotiation, (negotiate platform config).outcome partition = (.ok negotiation, reached) ∧
        negotiation.complete = false ∧ result = .ok (.legacy negotiation.peer)) ∨
      ∃ negotiation asked begun,
        (negotiate platform config).outcome partition = (.ok negotiation, asked) ∧
        negotiation.complete = true ∧
        (start platform config handOffAddress negotiation.peer).outcome asked = (begun, reached) ∧
        result = begun.map .started := by
  rcases answered : (negotiate platform config).outcome partition
    with ⟨failure | negotiation, asked⟩
  · left
    have refused : (negotiate platform config).orStop.outcome partition =
        (.error (.failed failure), asked) := by
      rw [Step.orStop, Step.outcome_recover, answered]
      rfl
    rw [bootstrap, Step.outcome_bind_error refused] at done
    cases done
    exact ⟨failure, rfl, rfl⟩
  · right
    rw [bootstrap, Step.outcome_bind_ok (Step.outcome_orStop_ok_iff.mpr answered)] at done
    cases complete : negotiation.complete with
    | false =>
        rw [complete] at done
        cases done
        exact Or.inl ⟨negotiation, rfl, complete, rfl⟩
    | true =>
        rw [complete, if_pos rfl, Step.outcome_map] at done
        rcases begun : (start platform config handOffAddress negotiation.peer).outcome asked
          with ⟨stop | context, later⟩
        all_goals
          rw [begun] at done
          cases done
          exact Or.inr ⟨negotiation, asked, _, rfl, complete, begun, rfl⟩

theorem bootstrap_changes {result : Except Stop BootOutcome} {place : Nat}
    (done : (bootstrap platform config handOffAddress).outcome partition = (result, reached))
    (changed : reached.memory.read place ≠ partition.memory.read place) :
    (∃ sighting, (survey partition.memory config handOffAddress).result = .ok sighting ∧
      sighting.image.Covers place) ∨
    ∃ context, result = .ok (.started context) ∧ InBitmaps reached context place := by
  obtain ⟨failure, answered, _⟩ | ⟨negotiation, answered, _, _⟩ |
    ⟨negotiation, asked, begun, answered, _, started, rfl⟩ := bootstrap_cases done
  · rw [negotiate_keeps answered] at changed
    exact absurd rfl changed
  · rw [negotiate_keeps answered] at changed
    exact absurd rfl changed
  · rw [← negotiate_keeps answered] at changed ⊢
    refine (start_changes started changed).imp_right ?_
    rintro ⟨context, rfl, inside⟩
    exact ⟨context, rfl, inside⟩

theorem bootstrap_sights {context : BootContext}
    (done : (bootstrap platform config handOffAddress).outcome partition =
      (.ok (.started context), reached)) :
    ∃ sighting, (survey partition.memory config handOffAddress).result = .ok sighting ∧
      sighting.address = context.image.dataAddress ∧ sighting.image.size = context.image.size := by
  obtain ⟨_, _, impossible⟩ | ⟨_, _, _, impossible⟩ |
    ⟨negotiation, asked, begun, answered, _, started, same⟩ := bootstrap_cases done
  · cases impossible
  · cases impossible
  · rw [← negotiate_keeps answered]
    cases begun with
    | error stop => cases same
    | ok other =>
        cases same
        exact start_sights started

theorem bootstrap_stops {failure : BootFailure}
    (early : ((negotiate platform config).outcome partition).1 = .error failure ∨
      (∃ negotiation, ((negotiate platform config).outcome partition).1 = .ok negotiation ∧
        negotiation.complete = true) ∧
        (survey partition.memory config handOffAddress).result = .error failure) :
    (bootstrap platform config handOffAddress).outcome partition =
      (.error (.failed failure), ((negotiate platform config).outcome partition).2) := by
  rcases ended : (bootstrap platform config handOffAddress).outcome partition
    with ⟨result, reached⟩
  obtain ⟨other, answered, rfl⟩ | ⟨negotiation, answered, partially, rfl⟩ |
    ⟨negotiation, asked, begun, answered, complete, started, rfl⟩ := bootstrap_cases ended
  all_goals rw [answered] at early ⊢
  · obtain same | ⟨⟨negotiation, impossible, _⟩, _⟩ := early
    · cases same
      rfl
    · cases impossible
  · obtain impossible | ⟨⟨_, same, complete⟩, _⟩ := early
    · cases impossible
    · cases same
      cases partially.symm.trans complete
  · obtain impossible | ⟨_, unseen⟩ := early
    · cases impossible
    · rw [← negotiate_keeps answered] at unseen
      rw [start_stops unseen] at started
      cases started
      rfl

/-- A boot that ends before an image is found and laid out has asked for the version, once, and has
done nothing else. However a boot ends, every byte that it changes lies in the data of that image
or in the bitmaps of the heap it started with. -/
theorem boot_footprint (conduit : Conduit σ) (permissions : PagePermissions (Record σ))
    (config : BootConfig) (handOffAddress : UInt64) (partition : Partition (Record σ)) :
    let platform := Platform.recorded conduit permissions
    let negotiated := ((negotiate platform config).outcome partition).1
    let surveyed := (survey partition.memory config handOffAddress).result
    let booted := (bootstrap platform config handOffAddress).outcome partition
    (∀ peer, booted.1 = .ok (.legacy peer) → Untouched config partition booted.2) ∧
      (∀ failure,
        negotiated = .error failure ∨
          (∃ negotiation, negotiated = .ok negotiation ∧ negotiation.complete = true) ∧
            surveyed = .error failure →
        booted.1 = .error (.failed failure) ∧ Untouched config partition booted.2) ∧
      (∀ context, booted.1 = .ok (.started context) →
        ∃ sighting, surveyed = .ok sighting ∧ sighting.address = context.image.dataAddress ∧
          sighting.image.size = context.image.size) ∧
      ∀ address : UInt64,
        booted.2.memory.read address.toNat ≠ partition.memory.read address.toNat →
        (∃ sighting, surveyed = .ok sighting ∧ sighting.Covers address) ∨
          ∃ context, booted.1 = .ok (.started context) ∧
            InBitmaps booted.2 context address.toNat := by
  intro platform negotiated surveyed booted
  have untouched : Untouched config partition
      ((negotiate platform config).outcome partition).2 := by
    rw [negotiate_reaches]
    exact ⟨rfl, rfl, rfl, rfl, rfl⟩
  refine ⟨?_, ?_, ?_, ?_⟩
  · intro peer legacy
    obtain ⟨_, _, impossible⟩ | ⟨negotiation, answered, _⟩ |
      ⟨negotiation, asked, begun, _, _, _, same⟩ := bootstrap_cases (Prod.ext legacy rfl)
    · cases impossible
    · rw [answered] at untouched
      exact untouched
    · cases begun <;> cases same
  · intro failure early
    have ended : booted = _ := bootstrap_stops early
    rw [ended]
    exact ⟨rfl, untouched⟩
  · intro context started
    exact bootstrap_sights (Prod.ext started rfl)
  · intro address changed
    refine (bootstrap_changes (Prod.ext rfl rfl) changed).imp_left ?_
    rintro ⟨sighting, seen, inside⟩
    exact ⟨sighting, seen, survey_covers seen inside⟩

section Example

def recordedTables : Platform (Record PageTable) :=
  .recorded PageTable.conduit (Record.conduit PageTable.conduit).permissions

def blankBoot (version : UInt64) : Partition (Record PageTable) where
  memory := .zeroed
  allocator := none
  outside := .blank ⟨version, 1, true, ∅⟩

/-- The image and the heap of `bootable`, and a heap page that is not blank. -/
@[irreducible] def usedHeap : Partition (Record PageTable) where
  memory := bootable.memory.write 0x40003 7
  allocator := none
  outside := .blank ⟨0x10001, 1, true, ∅⟩

theorem used_heap_boot_changes :
    let booted := (bootstrap recordedTables {} 0x20000).outcome usedHeap
    booted.2.memory.read 0x10fc2 ≠ usedHeap.memory.read 0x10fc2 ∧
      booted.2.memory.read 0x40003 ≠ usedHeap.memory.read 0x40003 := by
  decide +kernel

theorem boots_within_footprint :
    Untouched {} (blankBoot 0x10000)
        ((bootstrap recordedTables {} 0).outcome (blankBoot 0x10000)).2 ∧
      Untouched {} (blankBoot 0x10001)
        ((bootstrap recordedTables {} 0).outcome (blankBoot 0x10001)).2 ∧
      ∀ address, address = 0x10fc2 ∨ address = 0x40003 →
        let booted := (bootstrap recordedTables {} 0x20000).outcome usedHeap
        booted.2.memory.read address.toNat ≠ usedHeap.memory.read address.toNat ∧
          ((∃ sighting, (survey usedHeap.memory {} 0x20000).result = .ok sighting ∧
              sighting.Covers address) ∨
            ∃ context, booted.1 = .ok (.started context) ∧
              InBitmaps booted.2 context address.toNat) := by
  refine ⟨?_, ?_, fun address listed => ?_⟩
  · have legacy : ((bootstrap recordedTables {} 0).outcome (blankBoot 0x10000)).1 =
        .ok (.legacy ⟨1, 0⟩) := by decide +kernel
    exact (boot_footprint _ _ {} 0 (blankBoot 0x10000)).1 _ legacy
  · have negotiated : ∃ negotiation, ((negotiate recordedTables {}).outcome
        (blankBoot 0x10001)).1 = .ok negotiation ∧ negotiation.complete = true :=
      ⟨_, rfl, rfl⟩
    have unfound : (survey (blankBoot 0x10001).memory {} 0).result =
        .error (.manifestMissing .nullHandOff) := rfl
    exact ((boot_footprint _ _ {} 0 (blankBoot 0x10001)).2.1 _
      (Or.inr ⟨negotiated, unfound⟩)).2
  · have changed : ((bootstrap recordedTables {} 0x20000).outcome usedHeap).2.memory.read
        address.toNat ≠ usedHeap.memory.read address.toNat := by
      obtain rfl | rfl := listed
      · exact used_heap_boot_changes.1
      · exact used_heap_boot_changes.2
    exact ⟨changed, (boot_footprint _ _ {} 0x20000 usedHeap).2.2.2 address changed⟩

end Example

end Boot

end PartitionBoot
