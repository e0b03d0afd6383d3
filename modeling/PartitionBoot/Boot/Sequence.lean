import PartitionBoot.HandOff
import PartitionBoot.Heap.MemoryServices
import PartitionBoot.Image.Loading
import PartitionBoot.Manifest

/-!
The boot: version negotiation, the manifest behind the hand-off blob, the core image in the volume
the manifest names, and the heap. The first failure ends it. A boot that starts is followed by the
listed modules, and its end is reported as an exit code.
-/

namespace PartitionBoot

variable {σ : Type}

/-- What a boot needs from outside the partition. The three share one state, so that each of them
may depend on what was asked of the others. -/
structure Platform (σ : Type) where
  conduit : Conduit σ
  permissions : PagePermissions σ
  relocator : Relocator σ

/-- A partition in the course of its boot: its memory, the allocator once there is one, and the
state of the world outside. -/
structure Partition (σ : Type) where
  memory : Memory
  allocator : Option Allocator
  outside : σ

namespace Partition

def outsideStep {ε α : Type} (step : Step σ ε α) : Step (Partition σ) ε α :=
  Step.focus (·.outside) (fun partition outside => { partition with outside }) step

def machineStep {ε α : Type} (step : Step (Machine σ) ε α) : Step (Partition σ) ε α :=
  Step.focus (fun partition => ⟨partition.memory, partition.outside⟩)
    (fun partition machine =>
      { partition with memory := machine.memory, outside := machine.outside }) step

def heapStep {ε α : Type} (allocator : Allocator) (step : Step Heap ε α) :
    Step (Partition σ) ε α :=
  Step.focus (fun partition => { allocator with memory := partition.memory })
    (fun partition heap =>
      { partition with memory := heap.memory, allocator := some heap.toAllocator }) step

end Partition

structure BootContext where
  layout : PartitionLayout
  manifestAddress : UInt64
  version : Version
  image : LoadedImage
deriving DecidableEq

inductive BootOutcome where
  | started (context : BootContext)
  /-- The supervisor offers an older minor version, so another boot path has to take over. -/
  | legacy (peer : Version)
deriving DecidableEq

namespace Boot

def negotiate (platform : Platform σ) (config : BootConfig) :
    Step (Partition σ) BootFailure Negotiation := do
  let outcome ← Partition.outsideStep
    ((Negotiation.negotiate platform.conduit config.version).recover fun error =>
      Report.failNoting (.versionQueryFailed error) (.versionQuery error))
  if outcome.compatible then
    pure outcome
  else do
    Step.note (.versionIncompatible outcome.peer)
    Step.fail (.versionMismatch config.version.major outcome.peer.major)

def findManifest (memory : Memory) (config : BootConfig) (handOffAddress : UInt64) :
    Report BootFailure (UInt64 × Manifest) := do
  let handOff ← HandOff.ofAddress memory handOffAddress
  let address ← handOff.manifestAddress
  let tree ← (DeviceTree.ofAddress memory address).recover unreadable
  pure (address, ⟨tree, config⟩)

def heapRegion (manifest : Manifest) (granule : Granule) :
    Report BootFailure (Option AddressRange) := do
  match ← (manifest.findRegion manifest.config.heapRegion granule.pageSize).attempt with
  | .ok region => pure (some region)
  | .error failure =>
      if failure = .heapRegionMissing ∧ manifest.config.heapPolicy = .optional then do
        Report.note .heapAbsent
        pure none
      else
        Report.fail failure

def startHeap (layout : PartitionLayout) : Option AddressRange →
    Step (Partition σ) BootFailure PartitionLayout
  | none => do
      modify fun partition => { partition with allocator := none }
      pure layout
  | some region => do
      let memory := (← get).memory
      let heap ← Step.ofReport (MemoryServices.start region memory)
      modify fun partition =>
        { partition with memory := heap.memory, allocator := some heap.toAllocator }
      pure { layout with heapBase := region.base, heapSize := region.size }

def start (platform : Platform σ) (config : BootConfig) (handOffAddress : UInt64)
    (version : Version) : Step (Partition σ) Stop BootContext := do
  let (manifestAddress, manifest) ←
    (Step.ofReport (findManifest (← get).memory config handOffAddress)).orStop
  let (layout, granule) ← (Step.ofReport manifest.parse).orStop
  let volume ← (Step.ofReport (Volume.ofAddress (← get).memory layout.imageBase)).orStop
  let image ← Partition.machineStep
    (Image.load platform.permissions platform.relocator config.headerPageSize layout.imageBase
      volume.size)
  let loaded := manifest.inMemory (← get).memory
  let region ← (Step.ofReport (heapRegion loaded granule)).orStop
  let layout ← (startHeap layout region).orStop
  Step.note .bootComplete
  pure { layout, manifestAddress, version, image }

def bootstrap (platform : Platform σ) (config : BootConfig) (handOffAddress : UInt64) :
    Step (Partition σ) Stop BootOutcome := do
  let negotiation ← (negotiate platform config).orStop
  if negotiation.complete then
    .started <$> start platform config handOffAddress negotiation.peer
  else do
    Step.note (.legacySupervisor negotiation.peer config.version)
    pure (.legacy negotiation.peer)

structure Module (σ : Type) where
  name : String
  run : BootContext → Step (Partition σ) Empty Unit

def runModules {ε : Type} (context : BootContext) : List (Module σ) → Step (Partition σ) ε Unit
  | [] => pure ()
  | entry :: rest => do
      Step.note (.moduleStarting entry.name)
      (entry.run context).recover fun impossible => nomatch impossible
      runModules context rest

/-- Boots, runs the modules of a partition that started, and gives the exit code. An image left
half moved has none. -/
def run (platform : Platform σ) (config : BootConfig) (handOffAddress : UInt64)
    (modules : List (Module σ)) : Step (Partition σ) RelocationError Int := fun partition =>
  let booted := bootstrap platform config handOffAddress partition
  let ending : Step (Partition σ) RelocationError Int :=
    match booted.1.result with
    | .ok (.started context) => do
        runModules context modules
        pure Status.success.exitCode
    | .ok (.legacy _) => pure Status.success.exitCode
    | .error (.failed failure) => do
        Step.note (.bootFailed failure)
        pure failure.status.exitCode
    | .error (.halfMoved error) => Step.fail error
  let ended := ending booted.2
  (⟨ended.1.result, booted.1.notices ++ ended.1.notices⟩, ended.2)

end Boot

end PartitionBoot
