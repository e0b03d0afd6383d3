import PartitionBoot.Proofs.Boot.ExitCode
import PartitionBoot.Proofs.DeviceTree.Flattened
import PartitionBoot.Proofs.HandOff
import PartitionBoot.Proofs.Heap.PageSteps
import PartitionBoot.Proofs.Image.Loaded
import PartitionBoot.Proofs.Image.LockedPages
import PartitionBoot.Proofs.Manifest

/-!
What stands behind a partition that started: what each step of its boot found and handed to the
next one. Only such a partition runs its modules.
-/

namespace PartitionBoot

variable {σ : Type}

def Conduit.versionWord (conduit : Conduit σ) (state : σ) (wanted : Version) : UInt32 :=
  (conduit.call (Registers.call FunctionId.version [wanted.encode.toUInt64]) state).1.x0.toUInt32

/-- The supervisor answers the version call with a version that has everything of the wanted one. -/
structure Conduit.Offers (conduit : Conduit σ) (state : σ) (wanted version : Version) : Prop where
  accepted : 0 ≤ (conduit.versionWord state wanted).toInt32
  told : version = Version.decode (conduit.versionWord state wanted)
  major : version.major = wanted.major
  minor : wanted.minor ≤ version.minor

namespace Boot

/-- The manifest that the hand-off blob names says where the image begins, in numbers that do not
wrap, and how large it is. -/
def Described (memory : Memory) (config : BootConfig) (handOffAddress : UInt64)
    (context : BootContext) : Prop :=
  ∃ handOff tree node loadAddress entryOffset,
    (HandOff.ofAddress memory handOffAddress).result = .ok handOff ∧
      handOff.Names context.manifestAddress ∧
      (DeviceTree.ofAddress memory context.manifestAddress).result = .ok tree ∧
      Manifest.Reads ⟨tree, config⟩ node loadAddress entryOffset context.layout.imageSize ∧
      context.layout.imageBase.toNat = loadAddress.toNat + entryOffset.toNat

/-- The image is the one that the volume at the beginning of the partition image locates. It lies
inside the volume, by its address too unless the volume itself runs past the last address. -/
def Placed (memory : Memory) (context : BootContext) : Prop :=
  ∃ volume location,
    (Volume.ofAddress memory context.layout.imageBase).result = .ok volume ∧
      (Volume.locateImage volume).result = .ok location ∧
      location.offset + location.size ≤ volume.size ∧
      context.image.size = location.size ∧
      context.image.dataAddress = context.layout.imageBase + UInt64.ofNat location.offset ∧
      context.image.context.imageAddress = context.image.dataAddress ∧
      (context.layout.imageBase.toNat + volume.size < UInt64.size →
        context.layout.imageBase.toNat ≤ context.image.dataAddress.toNat ∧
          context.image.dataAddress.toNat + context.image.size ≤
            context.layout.imageBase.toNat + volume.size)

/-- There is an allocator if the layout has a heap, and its pages lie in that heap. -/
structure Furnished (allocator : Option Allocator) (layout : PartitionLayout) : Prop where
  present : allocator.isSome = layout.heap.isSome
  inside : ∀ found region, allocator = some found → layout.heap = some region →
    region.base.toNat ≤ found.pages.range.base.toNat ∧
      found.pages.range.base.toNat + found.pages.range.size.toNat ≤
        region.base.toNat + region.size.toNat

structure Established (platform : Platform σ) (config : BootConfig) (handOffAddress : UInt64)
    (initial booted : Partition σ) (context : BootContext) : Prop where
  version : platform.conduit.Offers initial.outside config.version context.version
  described : Described initial.memory config handOffAddress context
  placed : Placed initial.memory context
  furnished : Furnished booted.allocator context.layout

variable {platform : Platform σ} {config : BootConfig} {handOffAddress : UInt64}
  {partition reached : Partition σ}

theorem query_ok {conduit : Conduit σ} {wanted version : Version} {state later : σ}
    (asked : (Negotiation.query conduit wanted).outcome state = (.ok version, later)) :
    0 ≤ (conduit.versionWord state wanted).toInt32 ∧
      version = Version.decode (conduit.versionWord state wanted) := by
  obtain ⟨response, middle, requested, asked⟩ := Step.outcome_bind_ok_iff.mp asked
  cases requested
  dsimp only at asked
  split at asked
  · cases asked
  · rename_i accepted
    cases asked
    exact ⟨Int32.not_lt.mp accepted, rfl⟩

theorem negotiation_ok {conduit : Conduit σ} {wanted : Version} {negotiation : Negotiation}
    {state later : σ} (complete : negotiation.complete = true)
    (asked : (Negotiation.negotiate conduit wanted).outcome state = (.ok negotiation, later)) :
    conduit.Offers state wanted negotiation.peer := by
  obtain ⟨peer, middle, queried, asked⟩ := Step.outcome_bind_ok_iff.mp asked
  obtain ⟨accepted, told⟩ := query_ok queried
  rw [Step.outcome_bind_note] at asked
  cases asked
  simp only [Negotiation.evaluate, Bool.and_eq_true, decide_eq_true_eq] at complete
  exact ⟨accepted, told, complete.1, complete.2⟩

theorem negotiate_ok {negotiation : Negotiation}
    (done : (negotiate platform config).outcome partition = (.ok negotiation, reached)) :
    reached.memory = partition.memory ∧
      (negotiation.complete = true →
        platform.conduit.Offers partition.outside config.version negotiation.peer) := by
  obtain ⟨outcome, asked, compared, done⟩ := Step.outcome_bind_ok_iff.mp done
  have chosen : reached = asked ∧ negotiation = outcome := by
    split at done
    · cases done
      exact ⟨rfl, rfl⟩
    · cases done
  obtain ⟨rfl, rfl⟩ := chosen
  rw [Partition.outsideStep, Step.outcome_focus, Prod.mk.injEq] at compared
  obtain ⟨good, rfl⟩ := compared
  refine ⟨rfl, fun complete => ?_⟩
  have answered := (Step.outcome_recover_ok_iff (by simp)).mp (Prod.ext good rfl)
  exact negotiation_ok complete answered

theorem heapRegion_ok {manifest : Manifest} {granule : Granule} {region : AddressRange}
    (found : (heapRegion manifest granule).result = .ok (some region)) :
    Page.size ≤ region.size.toNat := by
  obtain ⟨attempted, searched, found⟩ := Report.bind_ok_iff.mp found
  cases attempted with
  | ok same =>
      cases found
      exact Manifest.findRegion_ok granule.le_pageSize (Except.ok.inj searched)
  | error failure =>
      dsimp only at found
      split at found
      · cases found
      · cases found

/-- A heap of size zero would be none, but a region holds at least one page. -/
theorem heap_of_region (layout : PartitionLayout) {region : AddressRange}
    (large : Page.size ≤ region.size.toNat) :
    PartitionLayout.heap { layout with heapBase := region.base, heapSize := region.size } =
      some region := by
  rw [PartitionLayout.heap, if_neg]
  intro zero
  dsimp only at zero
  rw [zero] at large
  exact absurd large (by decide)

theorem startHeap_ok {layout final : PartitionLayout} {region : Option AddressRange}
    (room : ∀ range, region = some range → Page.size ≤ range.size.toNat)
    (empty : layout.heapSize = 0)
    (done : (startHeap layout region).outcome partition = (.ok final, reached)) :
    Furnished reached.allocator final ∧ final.imageBase = layout.imageBase ∧
      final.imageSize = layout.imageSize := by
  cases region with
  | none =>
      cases done
      have none : layout.heap = none := by rw [PartitionLayout.heap, if_pos empty]
      refine ⟨⟨by rw [none]; rfl, ?_⟩, rfl, rfl⟩
      intro found range impossible
      cases impossible
  | some range =>
      cases done
      have large := room range rfl
      have some := heap_of_region layout large
      refine ⟨⟨by rw [some]; rfl, ?_⟩, rfl, rfl⟩
      intro found other made same
      cases some.symm.trans same
      rw [← Option.some.inj made]
      exact PagePool.create_inside range partition.memory large

theorem findManifest_ok {memory : Memory} {address : UInt64} {manifest : Manifest}
    (found : (findManifest memory config handOffAddress).result = .ok (address, manifest)) :
    ∃ handOff tree, (HandOff.ofAddress memory handOffAddress).result = .ok handOff ∧
      handOff.Names address ∧ (DeviceTree.ofAddress memory address).result = .ok tree ∧
      manifest = ⟨tree, config⟩ := by
  obtain ⟨handOff, handed, found⟩ := Report.bind_ok_iff.mp found
  obtain ⟨place, located, found⟩ := Report.bind_ok_iff.mp found
  obtain ⟨tree, read, found⟩ := Report.bind_ok_iff.mp found
  rw [Report.recover_ok_iff unreadable_fails] at read
  cases found
  exact ⟨handOff, tree, handed, (HandOff.manifestAddress_ok located).1, read, rfl⟩

theorem volume_ok {memory : Memory} {address : UInt64} {volume : Window}
    (read : (Volume.ofAddress memory address).result = .ok volume) :
    volume = memory.window address.toNat volume.size := by
  rw [Volume.ofAddress] at read
  split at read
  · cases read
  · obtain ⟨length, _, read⟩ := Report.bind_ok_iff.mp read
    split at read
    · cases read
    · cases read
      rfl

theorem load_placed {permissions : PagePermissions σ} {relocator : Relocator σ}
    {headerPageSize : UInt64} {memory : Memory} {outside : σ} {loaded : Machine σ}
    {context : BootContext} {volume : Window}
    (opened : (Volume.ofAddress memory context.layout.imageBase).result = .ok volume)
    (done : (Image.load permissions relocator headerPageSize context.layout.imageBase
      volume.size).outcome ⟨memory, outside⟩ = (.ok context.image, loaded)) :
    Placed memory context := by
  obtain ⟨location, image, headers, _, located, cut, _, _, _, place, moved, size⟩ :=
    Image.load_ok done
  rw [← volume_ok opened] at located cut
  have inside := Window.slice?_bound cut
  refine ⟨volume, location, opened, located, inside, size, place, by rw [moved], fun fits => ?_⟩
  have unwrapped : context.image.dataAddress.toNat =
      context.layout.imageBase.toNat + location.offset := by
    have limit : UInt64.size = 18446744073709551616 := rfl
    simp only [place, UInt64.toNat_add, UInt64.toNat_ofNat', limit] at fits ⊢
    omega
  omega

theorem start_ok {version : Version} {context : BootContext}
    (done : (start platform config handOffAddress version).outcome partition =
      (.ok context, reached)) :
    context.version = version ∧ Described partition.memory config handOffAddress context ∧
      Placed partition.memory context ∧ Furnished reached.allocator context.layout := by
  rw [start, Step.outcome_bind_get] at done
  obtain ⟨⟨address, manifest⟩, found, done⟩ := Step.outcome_bind_orStop_ok_iff.mp done
  obtain ⟨⟨parsed, granule⟩, laid, done⟩ := Step.outcome_bind_orStop_ok_iff.mp done
  rw [Step.outcome_bind_get] at done
  obtain ⟨volume, opened, done⟩ := Step.outcome_bind_orStop_ok_iff.mp done
  obtain ⟨image, loaded, load, done⟩ := Step.outcome_bind_ok_iff.mp done
  rw [Step.outcome_bind_get] at done
  obtain ⟨region, sought, done⟩ := Step.outcome_bind_orStop_ok_iff.mp done
  obtain ⟨layout, heaped, begun, done⟩ := Step.outcome_bind_ok_iff.mp done
  rw [Step.outcome_bind_note, Step.outcome_pure] at done
  cases done
  obtain ⟨handOff, tree, handed, names, read, rfl⟩ := findManifest_ok found
  obtain ⟨⟨node, loadAddress, entryOffset, reads, base⟩, empty⟩ := Manifest.parse_ok laid
  -- The layout that is handed on differs from the parsed one in its heap only.
  obtain ⟨furnished, sameBase, sameSize⟩ := startHeap_ok
    (fun range some => heapRegion_ok (some ▸ sought)) empty (Step.outcome_orStop_ok_iff.mp begun)
  refine ⟨rfl, ?_, ?_, furnished⟩
  · rw [← sameBase] at base
    rw [← sameSize] at reads
    exact ⟨handOff, tree, node, loadAddress, entryOffset, handed, names, read, reads, base⟩
  · rw [Partition.machineStep, Step.outcome_focus, Prod.mk.injEq] at load
    rw [← sameBase] at opened load
    exact load_placed opened (Prod.ext load.1 rfl)

theorem bootstrap_started {context : BootContext}
    (done : (bootstrap platform config handOffAddress).outcome partition =
      (.ok (.started context), reached)) :
    Established platform config handOffAddress partition reached context := by
  obtain ⟨negotiation, asked, negotiated, done⟩ := Step.outcome_bind_ok_iff.mp done
  obtain ⟨kept, offers⟩ := negotiate_ok (Step.outcome_orStop_ok_iff.mp negotiated)
  split at done
  · rename_i complete
    rw [Step.outcome_map] at done
    rcases begun : (start platform config handOffAddress negotiation.peer).outcome asked
      with ⟨stop | started, later⟩
    · rw [begun] at done
      cases done
    · rw [begun] at done
      cases done
      obtain ⟨version, described, placed, furnished⟩ := start_ok begun
      rw [kept] at described placed
      exact ⟨by rw [version]; exact offers complete, described, placed, furnished⟩
  · cases done

/-- A run starts its modules after a boot that started and after no other: each of them once, in
the order of the list and with the same context. Such a boot has established what it handed to
them. -/
theorem run_starts_modules (platform : Platform σ) (config : BootConfig)
    (handOffAddress : UInt64) (modules : List (Module σ)) (partition : Partition σ) :
    let booted := (bootstrap platform config handOffAddress).outcome partition
    ((run platform config handOffAddress modules).outcome partition).2 =
        (match booted.1 with
        | .ok (.started context) =>
            modules.foldl (fun reached entry => ((entry.run context).outcome reached).2) booted.2
        | _ => booted.2) ∧
      ∀ context, booted.1 = .ok (.started context) →
        Established platform config handOffAddress partition booted.2 context := by
  intro booted
  constructor
  · rw [outcome_run]
    rcases found : (bootstrap platform config handOffAddress).outcome partition
      with ⟨(failure | error) | (context | peer), later⟩
    all_goals simp only [booted, found]
  · intro context started
    exact bootstrap_started (Prod.ext started rfl)

section Example

open DeviceTree

def heapNames : List UInt8 :=
  ["compatible", "load-address", "entrypoint-offset", "image-size", "xlat-granule", "description",
    "base-address", "pages-count"].flatMap fun name => nameBytes name ++ [0]

def heapProperty (nameOffset : Nat) (value : List UInt8) : FlatProperty :=
  ⟨[], value, 0, nameOffset, List.replicate ((4 - value.length % 4) % 4) 0⟩

/-- The manifest of an image behind `0x10000` and a heap of two pages at `0x40000`. -/
def heapManifest : FlatTree where
  opening := ⟨[], [heapProperty 0 (nameBytes "arm,ffa-manifest-1.0" ++ [0]),
    heapProperty 11 (bigEndian 8 0x10000), heapProperty 24 (bigEndian 4 0xf5c),
    heapProperty 42 (bigEndian 8 0x1000), heapProperty 53 (bigEndian 4 0)], 0, [0, 0, 0]⟩
  children := .node ⟨nameBytes "memory-regions", [], 0, [0]⟩
    (.node ⟨nameBytes "heap", [heapProperty 66 (nameBytes "heap" ++ [0]),
      heapProperty 78 (bigEndian 8 0x40000), heapProperty 91 (bigEndian 4 2)], 0, [0, 0, 0]⟩
      .empty 0 .empty) 0 .empty
  closingGap := 0
  finishGap := 0
  names := heapNames
  totalSize := 363
  tokensOffset := 40
  namesOffset := 260

def heapManifestBytes : List UInt8 :=
  ((heapManifest.fields.take 4).flatMap fun field => bigEndian 4 field.2) ++
    List.replicate 16 0 ++
    ((heapManifest.fields.drop 4).flatMap fun field => bigEndian 4 field.2) ++
    (heapManifest.tokens ++ heapManifest.names)

/-- A blob whose one descriptor is that of a manifest at `0x30000`. -/
def handOffBytes : List UInt8 :=
  [0x0ffa, 0x10001, 64, 32, 1, 32, 0, 0].flatMap (littleEndian 4) ++
    (List.replicate 20 0 ++ littleEndian 4 363 ++ littleEndian 8 0x30000)

-- Irreducible, since unification must not evaluate the boot. The kernel does, once.
@[irreducible] def bootable : Partition PageTable where
  memory := Memory.holding [
    (0x10f5c, ⟨184, fun offset => (Image.oneSectionVolume 0x60000020).bytes.getD offset 0⟩),
    (0x20000, ⟨64, fun offset => handOffBytes.getD offset 0⟩),
    (0x30000, ⟨363, fun offset => heapManifestBytes.getD offset 0⟩)]
  allocator := none
  outside := ⟨0x10001, 1, true, ∅⟩

/-- Appends a digit to the number in the first byte of the heap's last page. -/
def digitModule (digit : UInt8) : Module PageTable where
  name := "digit"
  run _ := modify fun partition => { partition with
    memory := partition.memory.write 0x41000 (partition.memory.read 0x41000 * 10 + digit) }

def startedHeap : Except Stop BootOutcome → Option AddressRange
  | .ok (.started context) => context.layout.heap
  | _ => none

theorem heap_boot_ends :
    let booted := (bootstrap tablePlatform {} 0x20000).outcome bootable
    startedHeap booted.1 = some ⟨0x40000, 0x2000⟩ ∧ booted.2.memory.read 0x41000 = 0 := by
  decide +kernel

theorem heap_boot_starts_modules :
    let booted := (bootstrap tablePlatform {} 0x20000).outcome bootable
    let ended := (run tablePlatform {} 0x20000 [digitModule 1, digitModule 2]).outcome bootable
    ended.2.memory.read 0x41000 = 12 ∧
      ∃ context, booted.1 = .ok (.started context) ∧
        context.layout.heap = some ⟨0x40000, 0x2000⟩ ∧
        Established tablePlatform {} 0x20000 bootable booted.2 context := by
  intro booted ended
  obtain ⟨heap, blank⟩ := heap_boot_ends
  obtain ⟨started, established⟩ := run_starts_modules tablePlatform {} 0x20000
    [digitModule 1, digitModule 2] bootable
  rcases found : (bootstrap tablePlatform {} 0x20000).outcome bootable
    with ⟨stop | (context | peer), reached⟩
  · rw [found] at heap
    cases heap
  · refine ⟨?_, context, congrArg Prod.fst found, ?_, established context (by rw [found])⟩
    · rw [found] at started blank
      rw [show ended.2 = _ from started]
      simp [digitModule, Memory.read_write, blank]
    · rw [found] at heap
      exact heap
  · rw [found] at heap
    cases heap

end Example

end Boot

end PartitionBoot
