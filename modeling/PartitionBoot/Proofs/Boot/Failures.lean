import PartitionBoot.Boot.Sequence
import PartitionBoot.Proofs.DeviceTree.Readings
import PartitionBoot.Proofs.Outcome
import PartitionBoot.Proofs.Volume.Images

/-!
What a boot can fail with. Up to its search for a heap, no step of a boot reports that there is no
heap region, so this failure says that the search was reached.
-/

namespace PartitionBoot

/-- Everything a boot can fail with before it looks for a heap. -/
def BootFailure.Earlier (failure : BootFailure) : Prop := failure ≠ .heapRegionMissing

def Stop.Earlier (stop : Stop) : Prop := stop ≠ .failed .heapRegionMissing

theorem Step.failsOnly_orStop {τ α : Type} {step : Step τ BootFailure α}
    (fails : step.FailsOnly BootFailure.Earlier) : step.orStop.FailsOnly Stop.Earlier := by
  refine Step.failsOnly_recover fails fun failure earlier => Report.failsOnly_fail ?_
  rintro same
  cases same
  exact earlier rfl

namespace DeviceTree

theorem Structural.earlier {failure : BootFailure} (structural : Structural failure) :
    failure.Earlier := by
  obtain ⟨fault, rfl⟩ := structural.malformedManifest
  rintro ⟨⟩

end DeviceTree

variable {σ : Type}

open BootFailure (Earlier)
open Report

theorem unreadable_earlier {α : Type} {failure : BootFailure} (earlier : failure.Earlier) :
    (unreadable failure : Report BootFailure α).FailsOnly Earlier := by
  cases failure with
  | manifestMalformed fault => exact failsOnly_failNoting _ (by rintro ⟨⟩)
  | _ => exact failsOnly_fail earlier

namespace HandOff

theorem ofWindow_earlier (blob : Window) : (ofWindow blob).FailsOnly Earlier := by
  have lost : Earlier (.manifestMalformed .outOfBounds) := by rintro ⟨⟩
  refine failsOnly_bind (failsOnly_require _ lost) fun found _ => ?_
  split
  · exact failsOnly_failNoting _ (by rintro ⟨⟩)
  · refine failsOnly_bind (failsOnly_require _ lost) fun _ _ => ?_
    refine failsOnly_bind (failsOnly_require _ lost) fun _ _ => ?_
    refine failsOnly_bind (failsOnly_require _ lost) fun _ _ => ?_
    refine failsOnly_bind (failsOnly_require _ lost) fun _ _ => ?_
    refine failsOnly_bind (failsOnly_require _ lost) fun _ _ => ?_
    dsimp only
    split
    · exact failsOnly_failNoting _ lost
    · exact failsOnly_pure _

theorem ofAddress_earlier (memory : Memory) (address : UInt64) :
    (ofAddress memory address).FailsOnly Earlier := by
  have lost : Earlier (.manifestMalformed .outOfBounds) := by rintro ⟨⟩
  rw [ofAddress]
  split
  · exact failsOnly_failNoting _ (by rintro ⟨⟩)
  · refine failsOnly_bind (failsOnly_require _ lost) fun found _ => ?_
    split
    · exact ofWindow_earlier _
    · exact failsOnly_bind (failsOnly_require _ lost) fun _ _ => ofWindow_earlier _

theorem entry_earlier (handOff : HandOff) (index : Nat) :
    (handOff.entry index).FailsOnly Earlier := by
  simp only [entry]
  split
  · exact failsOnly_failNoting _ (by rintro ⟨⟩)
  · split
    · exact failsOnly_failNoting _ (by rintro ⟨⟩)
    · exact failsOnly_pure _

theorem descriptor_earlier (handOff : HandOff) (index : Nat) :
    (handOff.descriptor index).FailsOnly Earlier := by
  have lost : Earlier (.manifestMalformed .outOfBounds) := by rintro ⟨⟩
  refine failsOnly_bind (handOff.entry_earlier index) fun _ _ => ?_
  refine failsOnly_bind (failsOnly_require _ lost) fun _ _ => ?_
  refine failsOnly_bind (failsOnly_require _ lost) fun _ _ => ?_
  exact failsOnly_bind (failsOnly_require _ lost) fun _ _ => failsOnly_pure _

theorem firstManifest_earlier (handOff : HandOff) (index count : Nat) (found : Option Nat) :
    (handOff.firstManifest index count found).FailsOnly Earlier := by
  induction count generalizing index found with
  | zero => exact failsOnly_pure _
  | succ count ih =>
      simp only [firstManifest]
      split
      · rename_i failure failed
        intro error same
        cases same
        exact handOff.entry_earlier index failure failed
      · exact ih _ _

theorem manifestAddress_earlier (handOff : HandOff) :
    handOff.manifestAddress.FailsOnly Earlier := by
  have missing : manifestAddress.missing.FailsOnly Earlier :=
    failsOnly_failNoting _ (by rintro ⟨⟩)
  refine failsOnly_bind (handOff.firstManifest_earlier _ _ _) fun found _ => ?_
  cases found with
  | none => exact missing
  | some index =>
      refine failsOnly_bind (handOff.descriptor_earlier index) fun _ _ => ?_
      split
      · exact missing
      · rintro _ ⟨⟩

end HandOff

namespace DeviceTree

theorem ofWindow_earlier (blob : Window) : (ofWindow blob).FailsOnly Earlier := by
  have lost : Earlier outside := by rintro ⟨⟩
  have field (offset : Nat) : Report.FailsOnly Earlier (do
      let value ← Report.require (blob.be32? offset) outside
      pure value.toNat : Report BootFailure Nat) :=
    failsOnly_bind (failsOnly_require _ lost) fun _ _ => failsOnly_pure _
  refine failsOnly_bind (failsOnly_require _ lost) fun found _ => ?_
  split
  · exact failsOnly_failNoting _ (by rintro ⟨⟩)
  · refine failsOnly_bind (field _) fun _ _ => ?_
    refine failsOnly_bind (field _) fun _ _ => ?_
    refine failsOnly_bind (field _) fun _ _ => ?_
    refine failsOnly_bind (field _) fun _ _ => ?_
    refine failsOnly_bind (field _) fun _ _ => ?_
    refine failsOnly_bind (failsOnly_require _ lost) fun _ _ => ?_
    refine failsOnly_bind (failsOnly_require _ lost) fun _ _ => ?_
    exact failsOnly_bind (failsOnly_require _ lost) fun _ _ => failsOnly_pure _

theorem ofAddress_earlier (memory : Memory) (address : UInt64) :
    (ofAddress memory address).FailsOnly Earlier := by
  simp only [ofAddress]
  split
  · exact ofWindow_earlier _
  · exact failsOnly_bind (failsOnly_require _ (by rintro ⟨⟩)) fun _ _ => ofWindow_earlier _

theorem sizedProperty_earlier (tree : DeviceTree) (node : Node) (name : String) (width : Nat) :
    (tree.sizedProperty node name width).FailsOnly Earlier := by
  refine failsOnly_bind ((tree.property_failsOnly node name).mono fun _ => Structural.earlier)
    fun value _ => ?_
  cases value with
  | none => exact failsOnly_pure _
  | some value =>
      dsimp only
      split
      · exact failsOnly_pure _
      · exact failsOnly_failNoting _ (by rintro ⟨⟩)

theorem required_earlier {α : Type} (name : String) (value : Option α) :
    (required name value).FailsOnly Earlier := by
  cases value with
  | none => exact failsOnly_failNoting _ (by rintro ⟨⟩)
  | some value => exact failsOnly_pure _

theorem read32_earlier (tree : DeviceTree) (node : Node) (name : String) :
    (tree.read32 node name).FailsOnly Earlier :=
  failsOnly_bind (failsOnly_bind (tree.sizedProperty_earlier node name 4) fun _ _ =>
    failsOnly_pure _) fun _ _ => required_earlier name _

theorem read64_earlier (tree : DeviceTree) (node : Node) (name : String) :
    (tree.read64 node name).FailsOnly Earlier :=
  failsOnly_bind (failsOnly_bind (tree.sizedProperty_earlier node name 8) fun _ _ =>
    failsOnly_pure _) fun _ _ => required_earlier name _

end DeviceTree

namespace Manifest

theorem node_earlier (manifest : Manifest) : manifest.node.FailsOnly Earlier := by
  refine failsOnly_bind (failsOnly_recover (manifest.tree.findCompatible_failsOnly _)
    fun _ structural => unreadable_earlier structural.earlier) fun found _ => ?_
  cases found with
  | none => exact failsOnly_failNoting _ (by rintro ⟨⟩)
  | some found => exact failsOnly_pure _

theorem parse_earlier (manifest : Manifest) : manifest.parse.FailsOnly Earlier := by
  have note (notice : Notice) : (Report.note notice : Report BootFailure Unit).FailsOnly Earlier :=
    by rintro _ ⟨⟩
  refine failsOnly_bind ?_ fun description _ => ?_
  · refine failsOnly_bind manifest.node_earlier fun node _ => ?_
    refine failsOnly_bind (DeviceTree.read64_earlier _ _ _) fun _ _ => ?_
    refine failsOnly_bind (note _) fun _ _ => ?_
    refine failsOnly_bind (DeviceTree.read32_earlier _ _ _) fun _ _ => ?_
    refine failsOnly_bind (note _) fun _ _ => ?_
    refine failsOnly_bind (DeviceTree.read64_earlier _ _ _) fun _ _ => ?_
    refine failsOnly_bind (note _) fun _ _ => ?_
    refine failsOnly_bind (DeviceTree.read32_earlier _ _ _) fun value _ => ?_
    refine failsOnly_bind (note _) fun _ _ => failsOnly_bind ?_ fun _ _ => failsOnly_pure _
    rw [Granule.ofValue]
    split
    · exact failsOnly_pure _
    · exact failsOnly_pure _
    · exact failsOnly_pure _
    · exact failsOnly_failNoting _ (by rintro ⟨⟩)
  · refine failsOnly_bind ?_ fun _ _ => failsOnly_bind (note _) fun _ _ => failsOnly_pure _
    rw [ImageDescription.layout]
    split
    · exact failsOnly_pure _
    · exact failsOnly_failNoting _ (by rintro ⟨⟩)

end Manifest

namespace Volume

theorem ofAddress_earlier (memory : Memory) (address : UInt64) :
    (ofAddress memory address).FailsOnly Earlier := by
  have bad : Earlier malformed := by rintro ⟨⟩
  simp only [ofAddress]
  split
  · exact failsOnly_failNoting _ bad
  · refine failsOnly_bind (failsOnly_require _ bad) fun length _ => ?_
    split
    · exact failsOnly_fail bad
    · exact failsOnly_pure _

theorem locateImage_earlier (volume : Window) : (locateImage volume).FailsOnly Earlier := by
  intro failure failed
  cases locateImage_iff.mp failed with
  | _ => rintro ⟨⟩

end Volume

namespace Image

theorem parseTe_earlier (image : Window) : (parseTe image).FailsOnly Earlier := by
  have short : Earlier truncated := by rintro ⟨⟩
  refine failsOnly_bind (failsOnly_require _ short) fun _ _ => ?_
  refine failsOnly_bind (failsOnly_require _ short) fun _ _ => ?_
  split
  · exact failsOnly_failNoting _ short
  · refine failsOnly_bind (failsOnly_require _ short) fun _ _ => ?_
    refine failsOnly_bind (failsOnly_require _ short) fun _ _ => ?_
    refine failsOnly_bind (failsOnly_require _ short) fun _ _ => ?_
    exact failsOnly_bind (failsOnly_require _ short) fun _ _ => failsOnly_pure _

theorem parseOptional_earlier (image : Window) (optional : Nat) :
    (parseOptional image optional).FailsOnly Earlier := by
  have short : Earlier truncated := by rintro ⟨⟩
  have directory (offset : Nat) : (parseOptional.directory image offset).FailsOnly Earlier :=
    failsOnly_bind (failsOnly_require _ short) fun _ _ =>
      failsOnly_bind (failsOnly_require _ short) fun _ _ => failsOnly_pure _
  refine failsOnly_bind (failsOnly_require _ short) fun magic _ => ?_
  split
  · refine failsOnly_bind (failsOnly_require _ short) fun _ _ => ?_
    exact failsOnly_bind (directory _) fun _ _ => failsOnly_pure _
  · split
    · refine failsOnly_bind (failsOnly_require _ short) fun _ _ => ?_
      exact failsOnly_bind (directory _) fun _ _ => failsOnly_pure _
    · exact failsOnly_failNoting _ (by rintro ⟨⟩)

theorem parsePe_earlier (image : Window) : (parsePe image).FailsOnly Earlier := by
  have short : Earlier truncated := by rintro ⟨⟩
  refine failsOnly_bind (failsOnly_require _ short) fun found _ => ?_
  dsimp only
  split
  · exact failsOnly_failNoting _ (by rintro ⟨⟩)
  · refine failsOnly_bind (failsOnly_require _ short) fun _ _ => ?_
    refine failsOnly_bind (failsOnly_require _ short) fun _ _ => ?_
    refine failsOnly_bind (failsOnly_require _ short) fun _ _ => ?_
    refine failsOnly_bind (parseOptional_earlier _ _) fun _ _ => ?_
    refine failsOnly_bind (failsOnly_require _ short) fun _ _ => ?_
    split
    · exact failsOnly_fail short
    · exact failsOnly_pure _

theorem computeLayout_earlier (image : Window) (dataAddress : UInt64) :
    (computeLayout image dataAddress).FailsOnly Earlier := by
  have short : Earlier truncated := by rintro ⟨⟩
  refine failsOnly_bind ?_ fun parsed _ => ?_
  · refine failsOnly_bind (failsOnly_require _ short) fun signature _ => ?_
    split
    · exact parseTe_earlier image
    · split
      · exact parsePe_earlier image
      · exact failsOnly_failNoting _ (by rintro ⟨⟩)
  · dsimp only
    split
    · exact failsOnly_failNoting _ short
    · rintro _ ⟨⟩

theorem request_earlier (permissions : PagePermissions σ) (change : PermissionChange)
    (base length : UInt64) : (permissions.request change base length).FailsOnly Earlier := by
  refine Step.failsOnly_handled fun _ => ?_
  exact failsOnly_failNoting _ (by rintro ⟨⟩)

theorem protect_earlier (permissions : PagePermissions σ) (image : Window)
    (layout : ImageLayout) : (protect permissions image layout).FailsOnly Earlier := by
  have short : Earlier truncated := by rintro ⟨⟩
  have entered (index : Nat) : (sectionEntry image layout index).FailsOnly Earlier := by
    refine failsOnly_bind (failsOnly_require _ short) fun _ _ => ?_
    refine failsOnly_bind (failsOnly_require _ short) fun _ _ => ?_
    refine failsOnly_bind (failsOnly_require _ short) fun _ _ => ?_
    exact failsOnly_bind (failsOnly_require _ short) fun _ _ => failsOnly_pure _
  have guarded (entry : ImageSection) (base : UInt64) :
      (protectSection permissions entry base).FailsOnly Earlier := by
    simp only [protectSection]
    split
    · exact Step.failsOnly_bind (Step.failsOnly_note _) fun _ => request_earlier _ _ _ _
    · refine Step.failsOnly_bind (request_earlier _ _ _ _) fun _ => ?_
      split
      · exact Step.failsOnly_bind (Step.failsOnly_note _) fun _ => request_earlier _ _ _ _
      · exact Step.failsOnly_bind (Step.failsOnly_note _) fun _ => request_earlier _ _ _ _
  suffices rows : ∀ count index,
      (protectFrom permissions image layout index count).FailsOnly Earlier from rows _ _
  intro count
  induction count with
  | zero => exact fun _ => Step.failsOnly_pure _
  | succ count ih =>
      intro index
      refine Step.failsOnly_bind (Step.failsOnly_ofReport (entered index)) fun entry => ?_
      split
      · refine Step.failsOnly_bind (Step.failsOnly_ofReport (failsOnly_require _ short)) fun _ => ?_
        exact Step.failsOnly_bind (guarded _ _) fun _ => ih _
      · exact ih _

theorem relocateIfNeeded_earlier (permissions : PagePermissions σ) (relocator : Relocator σ)
    (headerPageSize : UInt64) (context : ImageContext) (layout : ImageLayout) (image : Window)
    (dataAddress : UInt64) :
    (relocateIfNeeded permissions relocator headerPageSize context layout image
      dataAddress).FailsOnly Stop.Earlier := by
  have asked (change : PermissionChange) : (Machine.outsideStep
      (permissions.request change layout.trueBase headerPageSize)).orStop.FailsOnly Stop.Earlier :=
    Step.failsOnly_orStop (Step.failsOnly_focus (request_earlier _ _ _ _))
  rw [relocateIfNeeded]
  split
  · exact Step.failsOnly_bind (Step.failsOnly_note _) fun _ => Step.failsOnly_pure _
  · refine Step.failsOnly_bind (Step.failsOnly_note _) fun _ => ?_
    refine Step.failsOnly_bind (asked _) fun _ => Step.failsOnly_bind (asked _) fun _ => ?_
    refine Step.failsOnly_bind (fun machine => ?_) fun _ =>
      Step.failsOnly_bind (asked _) fun _ => Step.failsOnly_pure _
    refine failsOnly_handled fun _ => ?_
    exact failsOnly_fail (by rintro ⟨⟩)

theorem load_earlier (permissions : PagePermissions σ) (relocator : Relocator σ)
    (headerPageSize address : UInt64) (size : Nat) :
    (load permissions relocator headerPageSize address size).FailsOnly Stop.Earlier := by
  have told {α : Type} {report : Report BootFailure α} (fails : report.FailsOnly Earlier) :
      (Step.ofReport report : Step (Machine σ) BootFailure α).orStop.FailsOnly Stop.Earlier :=
    Step.failsOnly_orStop (Step.failsOnly_ofReport fails)
  refine Step.failsOnly_bind Step.failsOnly_get fun machine => ?_
  refine Step.failsOnly_bind (told (Volume.locateImage_earlier _)) fun location => ?_
  refine Step.failsOnly_bind (told (failsOnly_require _ (by rintro ⟨⟩))) fun image => ?_
  refine Step.failsOnly_bind (told (computeLayout_earlier _ _)) fun laid => ?_
  refine Step.failsOnly_bind (Step.failsOnly_orStop (Step.failsOnly_focus
    (protect_earlier _ _ _))) fun _ => ?_
  refine Step.failsOnly_bind (relocateIfNeeded_earlier _ _ _ _ _ _ _) fun relocated => ?_
  dsimp only
  split
  · exact Step.failsOnly_bind (Step.failsOnly_note _) fun _ => Step.failsOnly_pure _
  · exact Step.failsOnly_pure _

end Image

end PartitionBoot
