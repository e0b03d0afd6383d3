import PartitionBoot.Proofs.Boot.Failures
import PartitionBoot.Proofs.Boot.Footprint
import PartitionBoot.Proofs.Manifest.Regions

/-!
What the heap policy decides. Two boots that differ in nothing but the policy ask for the same
things and change the same memory. They end alike, unless the manifest describes no heap: then the
strict one fails, and the other one starts without an allocator.
-/

namespace PartitionBoot

variable {σ : Type}

def BootConfig.under (config : BootConfig) (policy : HeapPolicy) : BootConfig :=
  { config with heapPolicy := policy }

/-- What a start has found when it looks for a heap. The tree is that of the manifest, as it stands
in memory by then. -/
structure Approach where
  manifestAddress : UInt64
  tree : DeviceTree
  layout : PartitionLayout
  granule : Granule
  image : LoadedImage

def Approach.search (found : Approach) (config : BootConfig) : Except BootFailure AddressRange :=
  (Manifest.findRegion ⟨found.tree, config⟩ config.heapRegion found.granule.pageSize).result

def PartitionLayout.Bare (layout : PartitionLayout) : Prop :=
  layout.heapBase = 0 ∧ layout.heapSize = 0

def PartitionLayout.HeapIn (layout : PartitionLayout) (region : AddressRange) : Prop :=
  layout.heapBase = region.base ∧ layout.heapSize = region.size

namespace Manifest

theorem parse_bare {manifest : Manifest} {layout : PartitionLayout} {granule : Granule}
    (parsed : manifest.parse.result = .ok (layout, granule)) : layout.Bare := by
  obtain ⟨description, _, parsed⟩ := Report.bind_ok_iff.mp parsed
  obtain ⟨same, laid, parsed⟩ := Report.bind_ok_iff.mp parsed
  cases parsed
  rw [ImageDescription.layout] at laid
  split at laid
  · cases laid
    exact ⟨rfl, rfl⟩
  · cases laid

theorem findRegion_without_regions {manifest : Manifest} {node : DeviceTree.Node}
    (located : manifest.node.result = .ok node)
    (absent : (manifest.tree.subnode node manifest.config.regionsNode).result = .ok none)
    (name : List UInt8) (pageSize : UInt64) :
    (manifest.findRegion name pageSize).result = .error (.manifestMissing .noMemoryRegions) := by
  simp only [findRegion, Report.result_bind, located, absent, Except.bind, Report.result_failNoting]

end Manifest

namespace Boot

variable {platform : Platform σ} {config : BootConfig} {handOffAddress : UInt64}
  {version : Version} {partition reached : Partition σ}

def findTree (memory : Memory) (handOffAddress : UInt64) :
    Report BootFailure (UInt64 × DeviceTree) := do
  let handOff ← HandOff.ofAddress memory handOffAddress
  let address ← handOff.manifestAddress
  let tree ← (DeviceTree.ofAddress memory address).recover unreadable
  pure (address, tree)

theorem findManifest_result (memory : Memory) (config : BootConfig) (handOffAddress : UInt64) :
    (findManifest memory config handOffAddress).result =
      (findTree memory handOffAddress).result.map fun found => (found.1, ⟨found.2, config⟩) := by
  simp only [findManifest, findTree, Report.result_bind, Report.result_pure]
  cases (HandOff.ofAddress memory handOffAddress).result with
  | error failure => rfl
  | ok handOff =>
      simp only [Except.bind]
      cases handOff.manifestAddress.result with
      | error failure => rfl
      | ok address =>
          dsimp only
          cases ((DeviceTree.ofAddress memory address).recover unreadable).result <;> rfl

theorem findTree_earlier (memory : Memory) (handOffAddress : UInt64) :
    (findTree memory handOffAddress).FailsOnly BootFailure.Earlier := by
  refine Report.failsOnly_bind (HandOff.ofAddress_earlier _ _) fun handOff _ => ?_
  refine Report.failsOnly_bind handOff.manifestAddress_earlier fun address _ => ?_
  refine Report.failsOnly_bind ?_ fun _ _ => Report.failsOnly_pure _
  exact Report.failsOnly_recover (DeviceTree.ofAddress_earlier _ _) fun _ => unreadable_earlier

/-- The part of a start in front of its search for a heap. -/
def approach (platform : Platform σ) (config : BootConfig) (handOffAddress : UInt64) :
    Step (Partition σ) Stop Approach := do
  let (manifestAddress, tree) ← (Step.ofReport (findTree (← get).memory handOffAddress)).orStop
  let manifest : Manifest := ⟨tree, config⟩
  let (layout, granule) ← (Step.ofReport manifest.parse).orStop
  let volume ← (Step.ofReport (Volume.ofAddress (← get).memory layout.imageBase)).orStop
  let image ← Partition.machineStep
    (Image.load platform.permissions platform.relocator config.headerPageSize layout.imageBase
      volume.size)
  let loaded := manifest.inMemory (← get).memory
  pure { manifestAddress, tree := loaded.tree, layout, granule, image }

def furnish (config : BootConfig) (version : Version) (found : Approach) :
    Step (Partition σ) Stop BootContext := do
  let region ← (Step.ofReport (heapRegion ⟨found.tree, config⟩ found.granule)).orStop
  let layout ← (startHeap found.layout region).orStop
  Step.note .bootComplete
  pure { layout, manifestAddress := found.manifestAddress, version, image := found.image }

theorem outcome_start (platform : Platform σ) (config : BootConfig) (handOffAddress : UInt64)
    (version : Version) (partition : Partition σ) :
    (start platform config handOffAddress version).outcome partition =
      (approach platform config handOffAddress >>= furnish config version).outcome partition := by
  have named := findManifest_result partition.memory config handOffAddress
  rw [start, approach, Step.outcome_bind_assoc, Step.outcome_bind_get, Step.outcome_bind_get,
    Step.outcome_bind_assoc]
  cases told : (findTree partition.memory handOffAddress).result with
  | error failure =>
      rw [told] at named
      rw [Step.outcome_bind_orStop_error _ named, Step.outcome_bind_orStop_error _ told]
  | ok found =>
      rw [told] at named
      rw [Step.outcome_bind_orStop_ok _ named, Step.outcome_bind_orStop_ok _ told]
      dsimp only
      rw [Step.outcome_bind_assoc]
      refine Step.outcome_bind_congr rfl fun parsed asked => ?_
      rw [Step.outcome_bind_get, Step.outcome_bind_assoc, Step.outcome_bind_get,
        Step.outcome_bind_assoc]
      refine Step.outcome_bind_congr rfl fun volume opened => ?_
      rw [Step.outcome_bind_assoc]
      exact Step.outcome_bind_congr rfl fun image loaded => rfl

theorem approach_earlier (platform : Platform σ) (config : BootConfig) (handOffAddress : UInt64) :
    (approach platform config handOffAddress).FailsOnly Stop.Earlier := by
  have told {α : Type} {report : Report BootFailure α}
      (fails : report.FailsOnly BootFailure.Earlier) :
      (Step.ofReport report : Step (Partition σ) BootFailure α).orStop.FailsOnly Stop.Earlier :=
    Step.failsOnly_orStop (Step.failsOnly_ofReport fails)
  refine Step.failsOnly_bind Step.failsOnly_get fun partition => ?_
  refine Step.failsOnly_bind (told (findTree_earlier _ _)) fun found => ?_
  refine Step.failsOnly_bind (told (Manifest.parse_earlier _)) fun parsed => ?_
  refine Step.failsOnly_bind Step.failsOnly_get fun asked => ?_
  refine Step.failsOnly_bind (told (Volume.ofAddress_earlier _ _)) fun volume => ?_
  refine Step.failsOnly_bind (Step.failsOnly_focus (Image.load_earlier _ _ _ _ _)) fun image => ?_
  exact Step.failsOnly_bind Step.failsOnly_get fun loaded => Step.failsOnly_pure _

theorem heapRegion_result (found : Approach) (config : BootConfig) :
    (heapRegion ⟨found.tree, config⟩ found.granule).result =
      match found.search config with
      | .ok region => .ok (some region)
      | .error failure =>
          if failure = .heapRegionMissing ∧ config.heapPolicy = .optional then .ok none
          else .error failure := by
  rw [heapRegion, Report.result_bind, Report.result_attempt, Approach.search]
  cases (Manifest.findRegion ⟨found.tree, config⟩ config.heapRegion
    found.granule.pageSize).result with
  | ok region => rfl
  | error failure =>
      simp only [Except.bind]
      split
      · rfl
      · rfl

/-- How two boots end that differ in their policy only, the strict one first. -/
inductive Parted : (strict lenient : Except Stop BootOutcome × Partition σ) → Prop where
  | alike (ended : Except Stop BootOutcome × Partition σ)
      (known : ended.1 ≠ .error (.failed .heapRegionMissing))
      (equipped : ∀ context, ended.1 = .ok (.started context) → ended.2.allocator.isSome) :
      Parted ended ended
  /-- At the search for a heap, one fails and the other one goes on. -/
  | heapless (context : BootContext) (reached : Partition σ)
      (bare : context.layout.Bare) :
      Parted (.error (.failed .heapRegionMissing), reached)
        (.ok (.started context), { reached with allocator := none })

namespace Parted

variable {strict lenient : Except Stop BootOutcome × Partition σ}

theorem outside (parted : Parted strict lenient) : lenient.2.outside = strict.2.outside := by
  cases parted <;> rfl

theorem memory (parted : Parted strict lenient) : lenient.2.memory = strict.2.memory := by
  cases parted <;> rfl

theorem eq_of_present (parted : Parted strict lenient)
    (present : strict.1 ≠ .error (.failed .heapRegionMissing)) : lenient = strict := by
  cases parted with
  | alike _ known equipped => rfl
  | heapless context reached bare => exact absurd rfl present

theorem started_of_missing (parted : Parted strict lenient)
    (missing : strict.1 = .error (.failed .heapRegionMissing)) :
    ∃ context, lenient = (.ok (.started context), { strict.2 with allocator := none }) ∧
      context.layout.Bare := by
  cases parted with
  | alike _ known equipped => exact absurd missing known
  | heapless context reached bare => exact ⟨context, rfl, bare⟩

theorem missing_of_unequipped (parted : Parted strict lenient) {context : BootContext}
    (started : lenient.1 = .ok (.started context)) (unequipped : lenient.2.allocator = none) :
    strict.1 = .error (.failed .heapRegionMissing) := by
  cases parted with
  | alike _ known equipped =>
      have present := equipped context started
      rw [unequipped] at present
      cases present
  | heapless context reached bare => rfl

end Parted

def asBoot (started : Except Stop BootContext × Partition σ) :
    Except Stop BootOutcome × Partition σ :=
  (started.1.map .started, started.2)

section Furnish

variable {found : Approach}

theorem startHeap_equips (layout : PartitionLayout) (region : AddressRange)
    (partition : Partition σ) :
    ∃ final reached, (startHeap layout (some region)).outcome partition = (.ok final, reached) ∧
      final.HeapIn region ∧ reached.allocator.isSome :=
  ⟨_, _, rfl, ⟨rfl, rfl⟩, rfl⟩

theorem furnish_ok {region : AddressRange} (searched : found.search config = .ok region)
    (version : Version) (partition : Partition σ) :
    ∃ context reached, context.layout.HeapIn region ∧ reached.allocator.isSome ∧
      ∀ policy, (furnish (config.under policy) version found).outcome partition =
        (.ok context, reached) := by
  obtain ⟨final, reached, begun, heap, equipped⟩ :=
    startHeap_equips found.layout region partition
  refine ⟨⟨final, found.manifestAddress, version, found.image⟩, reached, heap, equipped,
    fun policy => ?_⟩
  have told := heapRegion_result found (config.under policy)
  rw [show found.search (config.under policy) = .ok region from searched] at told
  rw [furnish, Step.outcome_bind_orStop_ok _ told,
    Step.outcome_bind_ok (Step.outcome_orStop_ok_iff.mpr begun)]
  rfl

theorem furnish_error {failure : BootFailure} (searched : found.search config = .error failure)
    (kept : failure ≠ .heapRegionMissing ∨ config.heapPolicy = .required) :
    (furnish config version found).outcome partition = (.error (.failed failure), partition) := by
  have told := heapRegion_result found config
  rw [searched] at told
  dsimp only at told
  rw [if_neg (by rintro ⟨same, lenient⟩; simp_all)] at told
  rw [furnish, Step.outcome_bind_orStop_error _ told]

theorem furnish_heapless (searched : found.search config = .error .heapRegionMissing)
    (lenient : config.heapPolicy = .optional) :
    (furnish config version found).outcome partition =
      (.ok ⟨found.layout, found.manifestAddress, version, found.image⟩,
        { partition with allocator := none }) := by
  have told := heapRegion_result found config
  rw [searched] at told
  dsimp only at told
  rw [if_pos ⟨rfl, lenient⟩] at told
  rw [furnish, Step.outcome_bind_orStop_ok _ told]
  rfl

theorem approach_bare
    (came : (approach platform config handOffAddress).outcome partition = (.ok found, reached)) :
    found.layout.Bare := by
  rw [approach, Step.outcome_bind_get] at came
  obtain ⟨⟨address, tree⟩, _, came⟩ := Step.outcome_bind_orStop_ok_iff.mp came
  obtain ⟨⟨layout, granule⟩, parsed, came⟩ := Step.outcome_bind_orStop_ok_iff.mp came
  rw [Step.outcome_bind_get] at came
  obtain ⟨volume, _, came⟩ := Step.outcome_bind_orStop_ok_iff.mp came
  obtain ⟨image, loaded, _, came⟩ := Step.outcome_bind_ok_iff.mp came
  cases came
  exact Manifest.parse_bare parsed

end Furnish

theorem approach_under (policy : HeapPolicy) :
    approach platform (config.under policy) handOffAddress =
      approach platform config handOffAddress := rfl

theorem negotiate_under (policy : HeapPolicy) :
    negotiate platform (config.under policy) = negotiate platform config := rfl

theorem outcome_bootstrap (platform : Platform σ) (config : BootConfig) (handOffAddress : UInt64)
    (partition : Partition σ) :
    (bootstrap platform config handOffAddress).outcome partition =
      match (negotiate platform config).outcome partition with
      | (.error failure, asked) => (.error (.failed failure), asked)
      | (.ok negotiation, asked) =>
          if negotiation.complete then
            asBoot ((start platform config handOffAddress negotiation.peer).outcome asked)
          else (.ok (.legacy negotiation.peer), asked) := by
  rcases ended : (bootstrap platform config handOffAddress).outcome partition with ⟨result, reached⟩
  obtain ⟨failure, answered, rfl⟩ | ⟨negotiation, answered, partially, rfl⟩ |
    ⟨negotiation, asked, begun, answered, complete, started, rfl⟩ := bootstrap_cases ended
  · rw [answered]
  · rw [answered]
    simp only [partially, Bool.false_eq_true, if_false]
  · rw [answered]
    simp only [complete, if_true, started]
    rfl

theorem negotiate_earlier (platform : Platform σ) (config : BootConfig) :
    (negotiate platform config).FailsOnly BootFailure.Earlier := by
  refine Step.failsOnly_bind (Step.failsOnly_focus ?_) fun outcome => ?_
  · refine Step.failsOnly_handled fun _ => ?_
    exact Report.failsOnly_failNoting _ (by rintro ⟨⟩)
  · split
    · exact Step.failsOnly_pure _
    · refine Step.failsOnly_bind (Step.failsOnly_note _) fun _ => ?_
      exact Step.failsOnly_ofReport (Report.failsOnly_fail (by rintro ⟨⟩))

/-- A boot comes to its search for a heap with this found and this reached. -/
def Seeks (platform : Platform σ) (config : BootConfig) (handOffAddress : UInt64)
    (partition : Partition σ) (found : Approach) (reached : Partition σ) : Prop :=
  ∃ negotiation asked, (negotiate platform config).outcome partition = (.ok negotiation, asked) ∧
    negotiation.complete = true ∧
    (approach platform config handOffAddress).outcome asked = (.ok found, reached)

section Seeks

variable {found : Approach} {failure : BootFailure} {region : AddressRange}

/-- What a boot comes to once it has got to its search for a heap. -/
theorem Seeks.outcome
    (seeks : Seeks platform config handOffAddress partition found reached) :
    ∃ version, ∀ policy,
      (bootstrap platform (config.under policy) handOffAddress).outcome partition =
        asBoot ((furnish (config.under policy) version found).outcome reached) := by
  obtain ⟨negotiation, asked, answered, complete, came⟩ := seeks
  refine ⟨negotiation.peer, fun policy => ?_⟩
  rw [outcome_bootstrap, negotiate_under, answered]
  simp only [complete, if_true]
  rw [outcome_start, approach_under, Step.outcome_bind_ok came]

theorem Seeks.fails {policy : HeapPolicy}
    (seeks : Seeks platform config handOffAddress partition found reached)
    (searched : found.search config = .error failure)
    (kept : failure ≠ .heapRegionMissing ∨ policy = .required) :
    (bootstrap platform (config.under policy) handOffAddress).outcome partition =
      (.error (.failed failure), reached) := by
  obtain ⟨version, ends⟩ := seeks.outcome
  rw [ends, furnish_error (show found.search (config.under policy) = _ from searched) kept]
  rfl

theorem Seeks.starts (seeks : Seeks platform config handOffAddress partition found reached)
    (searched : found.search config = .ok region) :
    ∃ context booted, context.layout.HeapIn region ∧ booted.allocator.isSome ∧ ∀ policy,
      (bootstrap platform (config.under policy) handOffAddress).outcome partition =
        (.ok (.started context), booted) := by
  obtain ⟨version, ends⟩ := seeks.outcome
  obtain ⟨context, booted, heap, equipped, furnished⟩ := furnish_ok searched version reached
  refine ⟨context, booted, heap, equipped, fun policy => ?_⟩
  rw [ends, furnished]
  rfl

theorem Seeks.goes_on (seeks : Seeks platform config handOffAddress partition found reached)
    (searched : found.search config = .error .heapRegionMissing) :
    ∃ context, context.layout.Bare ∧
      (bootstrap platform (config.under .optional) handOffAddress).outcome partition =
        (.ok (.started context), { reached with allocator := none }) := by
  obtain ⟨version, ends⟩ := seeks.outcome
  obtain ⟨_, _, _, _, came⟩ := seeks
  refine ⟨⟨found.layout, found.manifestAddress, version, found.image⟩, approach_bare came, ?_⟩
  rw [ends, furnish_heapless (show found.search (config.under .optional) = _ from searched) rfl]
  rfl

theorem Seeks.strict_failed_iff
    (seeks : Seeks platform config handOffAddress partition found reached) :
    ((bootstrap platform (config.under .required) handOffAddress).outcome partition).1 =
        .error (.failed failure) ↔ found.search config = .error failure := by
  constructor
  · intro failed
    cases searched : found.search config with
    | ok region =>
        obtain ⟨context, booted, _, _, ends⟩ := seeks.starts searched
        rw [ends] at failed
        cases failed
    | error other =>
        rw [seeks.fails searched (.inr rfl)] at failed
        cases failed
        rfl
  · intro searched
    rw [seeks.fails searched (.inr rfl)]

end Seeks

/-- A boot that does not come to its search for a heap ends in the same way under both policies. -/
theorem seeks_or_alike (platform : Platform σ) (config : BootConfig) (handOffAddress : UInt64)
    (partition : Partition σ) :
    (∃ found reached, Seeks platform config handOffAddress partition found reached) ∨
      ∃ ended, (∀ policy,
        (bootstrap platform (config.under policy) handOffAddress).outcome partition = ended) ∧
        ended.1 ≠ .error (.failed .heapRegionMissing) ∧
        ∀ context, ended.1 ≠ .ok (.started context) := by
  rcases answered : (negotiate platform config).outcome partition
    with ⟨failure | negotiation, asked⟩
  · refine .inr ⟨(.error (.failed failure), asked), fun policy => ?_, ?_, by rintro _ ⟨⟩⟩
    · rw [outcome_bootstrap, negotiate_under, answered]
    · have earlier := negotiate_earlier platform config partition failure
        (congrArg Prod.fst answered)
      rintro ⟨⟩
      exact earlier rfl
  by_cases complete : negotiation.complete = true
  · rcases came : (approach platform config handOffAddress).outcome asked
      with ⟨stop | found, reached⟩
    · refine .inr ⟨(.error stop, reached), fun policy => ?_, ?_, by rintro _ ⟨⟩⟩
      · rw [outcome_bootstrap, negotiate_under, answered]
        simp only [complete, if_true]
        rw [outcome_start, approach_under, Step.outcome_bind_error came]
        rfl
      · have earlier := approach_earlier platform config handOffAddress asked stop
          (congrArg Prod.fst came)
        rintro ⟨⟩
        exact earlier rfl
    · exact .inl ⟨found, reached, negotiation, asked, answered, complete, came⟩
  · refine .inr ⟨(.ok (.legacy negotiation.peer), asked), fun policy => ?_, by rintro ⟨⟩,
      by rintro _ ⟨⟩⟩
    rw [outcome_bootstrap, negotiate_under, answered]
    exact if_neg complete

theorem bootstrap_parted (platform : Platform σ) (config : BootConfig) (handOffAddress : UInt64)
    (partition : Partition σ) :
    Parted
      ((bootstrap platform (config.under .required) handOffAddress).outcome partition)
      ((bootstrap platform (config.under .optional) handOffAddress).outcome partition) := by
  obtain ⟨found, reached, seeks⟩ | ⟨ended, same, known, unstarted⟩ :=
    seeks_or_alike platform config handOffAddress partition
  · cases searched : found.search config with
    | ok region =>
        obtain ⟨context, booted, _, equipped, ends⟩ := seeks.starts searched
        rw [ends, ends]
        exact .alike _ (by rintro ⟨⟩) fun _ _ => equipped
    | error failure =>
        rw [seeks.fails searched (.inr rfl)]
        by_cases missing : failure = .heapRegionMissing
        · subst missing
          obtain ⟨context, bare, goes⟩ := seeks.goes_on searched
          rw [goes]
          exact .heapless context reached bare
        · rw [seeks.fails searched (.inl missing)]
          refine .alike _ (fun impossible => ?_) (by rintro _ ⟨⟩)
          cases impossible
          exact missing rfl
  · rw [same, same]
    exact .alike ended known fun context started => absurd started (unstarted context)

theorem seeks_of_missing
    (missing : ((bootstrap platform (config.under .required) handOffAddress).outcome partition).1 =
      .error (.failed .heapRegionMissing)) :
    ∃ found reached, Seeks platform config handOffAddress partition found reached := by
  obtain seeks | ⟨ended, same, known, _⟩ := seeks_or_alike platform config handOffAddress partition
  · exact seeks
  · rw [same] at missing
    exact absurd missing known

/-- Under both policies a boot asks for the same things and leaves the same memory. It ends in the
same way, unless the strict policy reports that there is no heap region; then, and only then, the
lenient one starts without an allocator. That is so exactly if the manifest has a region list
without the heap. With a heap in the list both boots start with it, and where the list is missing
or malformed, up to the heap or in it, both end with the same failure. -/
theorem policy_decides_missing_heap (conduit : Conduit σ)
    (permissions : PagePermissions (Record σ)) (relocator : Relocator (Record σ))
    (config : BootConfig) (handOffAddress : UInt64) (partition : Partition (Record σ)) :
    let platform : Platform (Record σ) :=
      ⟨Record.conduit conduit, Record.permissions permissions, Record.relocator relocator⟩
    let boot (policy : HeapPolicy) :=
      (bootstrap platform (config.under policy) handOffAddress).outcome partition
    let strict := boot .required
    let lenient := boot .optional
    let missing : Prop := strict.1 = .error (.failed .heapRegionMissing)
    (lenient.2.outside = strict.2.outside ∧ lenient.2.memory = strict.2.memory) ∧
      (¬ missing → lenient = strict) ∧
      (missing → ∃ context, lenient =
        (.ok (.started context), { strict.2 with allocator := none }) ∧ context.layout.Bare) ∧
      (∀ context, lenient.1 = .ok (.started context) → lenient.2.allocator = none → missing) ∧
      (missing → ∃ found reached, Seeks platform config handOffAddress partition found reached) ∧
      ∀ found reached, Seeks platform config handOffAddress partition found reached →
        let manifest : Manifest := ⟨found.tree, config⟩
        let pageSize := found.granule.pageSize
        (∀ failure, found.search config = .error failure → failure ≠ .heapRegionMissing →
          ∀ policy, boot policy = (.error (.failed failure), reached)) ∧
        (∀ node, manifest.node.result = .ok node →
          (found.tree.subnode node config.regionsNode).result = .ok none →
          ∀ policy, boot policy =
            (.error (.failed (.manifestMissing .noMemoryRegions)), reached)) ∧
        (missing ↔ found.search config = .error .heapRegionMissing) ∧
        (missing ↔ ∃ regions, manifest.ListsRegions regions ∧
          manifest.LacksRegion regions config.heapRegion) ∧
        ∀ regions, manifest.ListsRegions regions →
          (∀ range, manifest.ProvidesRegion regions config.heapRegion pageSize range →
            ∃ context booted, context.layout.HeapIn range ∧ booted.allocator.isSome ∧
              ∀ policy, boot policy = (.ok (.started context), booted)) ∧
          (manifest.MalformsRegion regions config.heapRegion pageSize →
            ∃ fault, ∀ policy,
              boot policy = (.error (.failed (.manifestMalformed fault)), reached)) := by
  intro platform boot strict lenient missing
  have parted : Parted strict lenient := bootstrap_parted platform config handOffAddress partition
  refine ⟨⟨parted.outside, parted.memory⟩, parted.eq_of_present, parted.started_of_missing, ?_,
    seeks_of_missing, ?_⟩
  · intro context started unequipped
    exact parted.missing_of_unequipped started unequipped
  intro found reached seeks manifest pageSize
  refine ⟨?_, ?_, seeks.strict_failed_iff, ?_, ?_⟩
  · intro failure searched known policy
    exact seeks.fails searched (.inl known)
  · intro node located absent policy
    exact seeks.fails (Manifest.findRegion_without_regions located absent _ _)
      (.inl (by rintro ⟨⟩))
  · rw [show missing ↔ _ from seeks.strict_failed_iff]
    constructor
    · intro searched
      obtain ⟨regions, lists⟩ := Manifest.listsRegions_of_missing searched
      exact ⟨regions, lists, (Manifest.findRegion_missing_iff lists).mp searched⟩
    · rintro ⟨regions, lists, lacks⟩
      exact (Manifest.findRegion_missing_iff lists).mpr lacks
  · intro regions lists
    constructor
    · intro range provides
      exact seeks.starts ((Manifest.findRegion_ok_iff lists).mpr provides)
    · intro malforms
      obtain ⟨fault, searched⟩ := (Manifest.malformsRegion_iff lists).mp malforms
      exact ⟨fault, fun policy => seeks.fails searched (.inl (by rintro ⟨⟩))⟩

section Example

def unlisted : BootConfig := { heapRegion := [0x6e] }

def listless : BootConfig := { regionsNode := "regions" }

/-- The used heap with a base address of four bytes in its manifest. -/
def narrowHeap : Partition (Record PageTable) :=
  { usedHeap with memory := usedHeap.memory.write 0x300d7 4 }

theorem narrow_heap_sought : ∃ found reached,
    Seeks recordedTables {} 0x20000 narrowHeap found reached ∧
      (⟨found.tree, {}⟩ : Manifest).ListsRegions ⟨116⟩ := by
  have answered : ((negotiate recordedTables {}).outcome narrowHeap).1 =
      .ok ⟨⟨1, 1⟩, true, true⟩ := by
    decide +kernel
  have looked : ((approach recordedTables {} 0x20000).outcome
      ((negotiate recordedTables {}).outcome narrowHeap).2).1.toOption.map (fun found =>
        ((Manifest.found ⟨found.tree, {}⟩).toOption,
          (found.tree.subnode ⟨0⟩ "memory-regions").result.toOption)) =
      some (some (some ⟨0⟩), some (some ⟨116⟩)) := by
    decide +kernel
  obtain ⟨found, came, seen⟩ := Option.map_eq_some_iff.mp looked
  obtain ⟨node, regions⟩ := Prod.mk.inj seen
  refine ⟨found, _, ⟨_, _, Prod.ext answered rfl, rfl, Prod.ext ?_ rfl⟩, ⟨0⟩, ?_, ?_⟩
  · exact eq_of_toOption came (by rw [came]; rfl)
  · exact eq_of_toOption node (by rw [node]; rfl)
  · exact eq_of_toOption regions (by rw [regions]; rfl)

theorem unlisted_heap_parts_policies :
    let boot (partition : Partition (Record PageTable)) (config : BootConfig)
        (policy : HeapPolicy) :=
      (bootstrap recordedTables (config.under policy) 0x20000).outcome partition
    (boot usedHeap unlisted .required).1 = .error (.failed .heapRegionMissing) ∧
      (∃ context, boot usedHeap unlisted .optional =
        (.ok (.started context),
          { (boot usedHeap unlisted .required).2 with allocator := none }) ∧
          context.layout.Bare) ∧
      (boot usedHeap listless .required).1 =
        .error (.failed (.manifestMissing .noMemoryRegions)) ∧
      boot usedHeap listless .optional = boot usedHeap listless .required ∧
      ∃ found reached, Seeks recordedTables {} 0x20000 narrowHeap found reached ∧
        (⟨found.tree, {}⟩ : Manifest).ListsRegions ⟨116⟩ ∧
        (⟨found.tree, {}⟩ : Manifest).MalformsRegion ⟨116⟩ (nameBytes "heap")
          found.granule.pageSize ∧
        ∀ policy, boot narrowHeap {} policy =
          (.error (.failed (.manifestMalformed (.propertyWidth "base-address" 8 4))), reached) := by
  intro boot
  have parts (partition : Partition (Record PageTable)) (config : BootConfig) :=
    policy_decides_missing_heap PageTable.conduit (Record.conduit PageTable.conduit).permissions
      .fixups config 0x20000 partition
  have missing : (boot usedHeap unlisted .required).1 = .error (.failed .heapRegionMissing) := by
    decide +kernel
  have unread : (boot usedHeap listless .required).1 =
      .error (.failed (.manifestMissing .noMemoryRegions)) := by
    decide +kernel
  have narrow : (boot narrowHeap {} .required).1 =
      .error (.failed (.manifestMalformed (.propertyWidth "base-address" 8 4))) := by
    decide +kernel
  refine ⟨missing, (parts usedHeap unlisted).2.2.1 missing, unread,
    (parts usedHeap listless).2.1 ?_, ?_⟩
  · intro same
    cases same.symm.trans unread
  · obtain ⟨found, reached, seeks, lists⟩ := narrow_heap_sought
    have malforms := (Manifest.malformsRegion_iff lists).mpr
      ⟨_, seeks.strict_failed_iff.mp narrow⟩
    obtain ⟨_, _, _, _, listed⟩ := (parts narrowHeap {}).2.2.2.2.2 found reached seeks
    obtain ⟨fault, ends⟩ := (listed ⟨116⟩ lists).2 malforms
    have same := (congrArg Prod.fst (ends .required)).symm.trans narrow
    cases same
    exact ⟨found, reached, seeks, lists, malforms, ends⟩

end Example

end Boot

end PartitionBoot
