import PartitionBoot.Manifest
import PartitionBoot.Proofs.DeviceTree.PropertyLists

/-!
Parsing a manifest from arbitrary bytes. Up to the manifest node every failure says that there is no
manifest; from then on the first properties with the four names decide, and every failure names the
first check that they do not pass.
-/

namespace PartitionBoot

namespace DeviceTree

variable {tree : DeviceTree} {start offset : Nat} {node : Node} {name : String} {width : Nat}
  {list : PropertyList} {failure : BootFailure}

namespace PropertyList

inductive Fault (list : PropertyList) (name : String) (width : Nat) : BootFailure → Prop where
  | broken {failure : BootFailure} (broken : list.Broken name width failure) :
      Fault list name width failure
  | missing (absent : list.lookup name = .ok none) :
      Fault list name width (.manifestMissing (.missingProperty name))

def required (list : PropertyList) (name : String) (width : Nat) : Except BootFailure Nat :=
  match list.sized name width with
  | .error failure => .error failure
  | .ok none => .error (.manifestMissing (.missingProperty name))
  | .ok (some number) => .ok number

theorem Field.required {number : Nat} (field : list.Field name width number) :
    list.required name width = .ok number := by
  rw [PropertyList.required, sized_some_iff.mpr field]

theorem Fault.required (fault : list.Fault name width failure) :
    list.required name width = .error failure := by
  cases fault with
  | broken broken => rw [PropertyList.required, sized_error_iff.mpr broken]
  | missing absent => rw [PropertyList.required, sized_none_iff.mpr absent]

def imageNames : List String :=
  ["load-address", "entrypoint-offset", "image-size", "xlat-granule"]

def image (list : PropertyList) : List (List UInt8 × List UInt8) :=
  list.entries.filter fun entry => entry.1 ∈ imageNames.map nameBytes

/-- The properties with one of the names are the same in some order, with any others before, between
and behind them. A fault of the scan is the same too unless it is met behind all of them. -/
structure Reordered (list other : PropertyList) : Prop where
  perm : list.image.Perm other.image
  distinct : (list.image.map Prod.fst).Nodup
  fault : list.fault = other.fault ∨ ∀ name ∈ imageNames, (list.first? name).isSome

structure Describes (list : PropertyList) (load entry size code : Nat) : Prop where
  loadAddress : list.Field "load-address" 8 load
  entryOffset : list.Field "entrypoint-offset" 4 entry
  imageSize : list.Field "image-size" 8 size
  granule : list.Field "xlat-granule" 4 code

/-- The properties say where the image lies, and the heap is left empty. -/
def Lays (list : PropertyList) (layout : PartitionLayout) (granule : Granule) : Prop :=
  ∃ load entry size code, list.Describes load entry size code ∧ code ≤ 2 ∧
    load + entry < UInt64.size ∧ layout.imageBase.toNat = load + entry ∧
    layout.imageSize.toNat = size ∧ layout.heapBase = 0 ∧ layout.heapSize = 0 ∧
    granule.pageSize.toNat = 4096 * Nat.pow 4 code

/-- The first check that the properties do not pass, in the order the checks are made. -/
inductive Refuses (list : PropertyList) : BootFailure → Prop where
  | loadAddress {failure : BootFailure} (fault : list.Fault "load-address" 8 failure) :
      Refuses list failure
  | entryOffset {failure : BootFailure} {load : Nat} (first : list.Field "load-address" 8 load)
      (fault : list.Fault "entrypoint-offset" 4 failure) : Refuses list failure
  | imageSize {failure : BootFailure} {load entry : Nat}
      (first : list.Field "load-address" 8 load)
      (second : list.Field "entrypoint-offset" 4 entry)
      (fault : list.Fault "image-size" 8 failure) : Refuses list failure
  | granule {failure : BootFailure} {load entry size : Nat}
      (first : list.Field "load-address" 8 load)
      (second : list.Field "entrypoint-offset" 4 entry)
      (third : list.Field "image-size" 8 size)
      (fault : list.Fault "xlat-granule" 4 failure) : Refuses list failure
  | unknown {load entry size code : Nat} (describes : list.Describes load entry size code)
      (unknown : 2 < code) :
      Refuses list (.manifestMalformed (.unknownGranule (UInt32.ofNat code)))
  | overflow {load entry size code : Nat} (describes : list.Describes load entry size code)
      (known : code ≤ 2) (overflows : UInt64.size ≤ load + entry) :
      Refuses list (.manifestMalformed .outOfBounds)

theorem Field.unique {number other : Nat} (field : list.Field name width number)
    (again : list.Field name width other) : number = other := by
  rw [← sized_some_iff] at field again
  rw [field] at again
  cases again
  rfl

theorem first?_image (member : name ∈ imageNames) :
    list.first? name =
      (list.image.find? fun entry => entry.1 = nameBytes name).map Prod.snd := by
  rw [image, List.find?_filter, first?]
  congr 2
  funext entry
  have listed : nameBytes name ∈ imageNames.map nameBytes := List.mem_map_of_mem member
  by_cases hit : entry.1 = nameBytes name
  · simp [hit, listed]
  · simp [hit]

theorem find?_perm {entries others : List (List UInt8 × List UInt8)}
    (perm : entries.Perm others) (distinct : (entries.map Prod.fst).Nodup) (key : List UInt8) :
    (entries.find? fun entry => entry.1 = key) = others.find? fun entry => entry.1 = key := by
  induction perm with
  | nil => rfl
  | cons first perm ih =>
      have rest := ih (List.nodup_cons.mp distinct).2
      by_cases hit : first.1 = key
      · simp [hit]
      · simp [hit, rest]
  | swap first second rest =>
      have apart : second.1 ≠ first.1 := by
        intro same
        exact (List.nodup_cons.mp distinct).1 (by simp [same])
      by_cases hit : first.1 = key
      · have missed : ¬ second.1 = key := fun same => apart (same.trans hit.symm)
        simp [hit, missed]
      · by_cases also : second.1 = key
        · simp [hit, also]
        · simp [hit, also]
  | trans perm further ihFirst ihSecond =>
      rw [ihFirst distinct, ihSecond ((perm.map Prod.fst).nodup_iff.mp distinct)]

theorem Reordered.lookup {other : PropertyList} (reordered : list.Reordered other)
    (member : name ∈ imageNames) : list.lookup name = other.lookup name := by
  have first : list.first? name = other.first? name := by
    rw [first?_image member, first?_image member, find?_perm reordered.perm reordered.distinct]
  unfold PropertyList.lookup
  obtain faults | read := reordered.fault
  · rw [first, faults]
  · obtain ⟨value, found⟩ := Option.isSome_iff_exists.mp (read name member)
    rw [← first, found]

theorem field_or_fault (list : PropertyList) (name : String) (width : Nat) :
    (∃ number, list.Field name width number) ∨ ∃ failure, list.Fault name width failure := by
  cases found : list.sized name width with
  | error failure => exact .inr ⟨failure, .broken (sized_error_iff.mp found)⟩
  | ok number =>
      cases number with
      | none => exact .inr ⟨_, .missing (sized_none_iff.mp found)⟩
      | some number => exact .inl ⟨number, sized_some_iff.mp found⟩

theorem describes_or_refuses (list : PropertyList) :
    (∃ load entry size code, list.Describes load entry size code ∧ code ≤ 2 ∧
      load + entry < UInt64.size) ∨ ∃ failure, list.Refuses failure := by
  obtain ⟨load, first⟩ | ⟨failure, fault⟩ := list.field_or_fault "load-address" 8
  · obtain ⟨entry, second⟩ | ⟨failure, fault⟩ := list.field_or_fault "entrypoint-offset" 4
    · obtain ⟨size, third⟩ | ⟨failure, fault⟩ := list.field_or_fault "image-size" 8
      · obtain ⟨code, fourth⟩ | ⟨failure, fault⟩ := list.field_or_fault "xlat-granule" 4
        · have describes : list.Describes load entry size code := ⟨first, second, third, fourth⟩
          by_cases known : code ≤ 2
          · by_cases fits : load + entry < UInt64.size
            · exact .inl ⟨load, entry, size, code, describes, known, fits⟩
            · exact .inr ⟨_, .overflow describes known (by omega)⟩
          · exact .inr ⟨_, .unknown describes (by omega)⟩
        · exact .inr ⟨failure, .granule first second third fault⟩
      · exact .inr ⟨failure, .imageSize first second fault⟩
    · exact .inr ⟨failure, .entryOffset first fault⟩
  · exact .inr ⟨failure, .loadAddress fault⟩

end PropertyList

theorem Holds.read64 (holds : tree.Holds node list) (name : String) :
    (tree.read64 node name).result = (list.required name 8).map UInt64.ofNat := by
  simp only [DeviceTree.read64, Report.result_bind, holds.property64, PropertyList.required]
  cases list.sized name 8 with
  | error failure => rfl
  | ok number => cases number <;> rfl

theorem Holds.read32 (holds : tree.Holds node list) (name : String) :
    (tree.read32 node name).result = (list.required name 4).map UInt32.ofNat := by
  simp only [DeviceTree.read32, Report.result_bind, holds.property32, PropertyList.required]
  cases list.sized name 4 with
  | error failure => rfl
  | ok number => cases number <;> rfl

theorem Holds.fault_status (holds : tree.Holds node list)
    (fault : list.Fault name width failure) : failure.status = .invalidParameter := by
  cases fault with
  | missing absent => rfl
  | broken broken =>
      obtain ⟨fault, rfl⟩ := holds.broken_malformed broken
      rfl

theorem Holds.refuses_status (holds : tree.Holds node list) (refuses : list.Refuses failure) :
    failure.status = .invalidParameter := by
  cases refuses with
  | loadAddress fault => exact holds.fault_status fault
  | entryOffset first fault => exact holds.fault_status fault
  | imageSize first second fault => exact holds.fault_status fault
  | granule first second third fault => exact holds.fault_status fault
  | unknown describes unknown => rfl
  | overflow describes known overflows => rfl

end DeviceTree

theorem Granule.ofValue_known {code : Nat} (known : code ≤ 2) :
    ∃ granule, (ofValue (UInt32.ofNat code)).result = .ok granule ∧
      granule.pageSize.toNat = 4096 * Nat.pow 4 code := by
  obtain rfl | rfl | rfl : code = 0 ∨ code = 1 ∨ code = 2 := by omega
  · exact ⟨.size4K, rfl, rfl⟩
  · exact ⟨.size16K, rfl, rfl⟩
  · exact ⟨.size64K, rfl, rfl⟩

theorem Granule.ofValue_unknown {value : UInt32} (unknown : 2 < value.toNat) :
    (ofValue value).result = .error (.manifestMalformed (.unknownGranule value)) := by
  unfold ofValue
  split
  · omega
  · omega
  · omega
  · rfl

theorem Granule.pageSize_injective {first second : Granule}
    (same : first.pageSize.toNat = second.pageSize.toNat) : first = second := by
  cases first <;> cases second <;> first | rfl | (exfalso; revert same; decide)

namespace DeviceTree

namespace PropertyList

variable {list : PropertyList} {load entry size code : Nat} {failure : BootFailure}

def placed (load entry size code : Nat) : Except BootFailure (PartitionLayout × Granule) :=
  (Granule.ofValue (UInt32.ofNat code)).result.bind fun granule =>
    ((ImageDescription.mk (UInt64.ofNat load) (UInt32.ofNat entry) (UInt64.ofNat size)
      granule).layout.result).map fun layout => (layout, granule)

def parsed (list : PropertyList) : Except BootFailure (PartitionLayout × Granule) := do
  let load ← list.required "load-address" 8
  let entry ← list.required "entrypoint-offset" 4
  let size ← list.required "image-size" 8
  let code ← list.required "xlat-granule" 4
  placed load entry size code

theorem Describes.parsed (describes : list.Describes load entry size code) :
    list.parsed = placed load entry size code := by
  rw [PropertyList.parsed, describes.loadAddress.required, describes.entryOffset.required,
    describes.imageSize.required, describes.granule.required]
  rfl

/-- The numbers fit the fields that keep them, so the image begins at their sum if that fits. -/
theorem Describes.layout (describes : list.Describes load entry size code) (granule : Granule) :
    (ImageDescription.mk (UInt64.ofNat load) (UInt32.ofNat entry) (UInt64.ofNat size)
        granule).layout.result =
      if load + entry < UInt64.size then
        .ok ⟨UInt64.ofNat (load + entry), UInt64.ofNat size, 0, 0⟩
      else .error (.manifestMalformed .outOfBounds) := by
  have loadKept : (UInt64.ofNat load).toNat = load :=
    UInt64.toNat_ofNat_of_lt' describes.loadAddress.lt
  have entryKept : (UInt32.ofNat entry).toNat = entry :=
    UInt32.toNat_ofNat_of_lt' describes.entryOffset.lt
  simp only [ImageDescription.layout, loadKept, entryKept]
  split
  · rename_i fits
    have sum : UInt64.ofNat load + (UInt32.ofNat entry).toUInt64 = UInt64.ofNat (load + entry) := by
      rw [← UInt64.toNat_inj, UInt64.toNat_add, UInt32.toNat_toUInt64, loadKept, entryKept,
        UInt64.toNat_ofNat']
    rw [sum]
    rfl
  · rfl

theorem Describes.lays (describes : list.Describes load entry size code) (known : code ≤ 2)
    (fits : load + entry < UInt64.size) :
    ∃ layout granule, list.parsed = .ok (layout, granule) ∧ list.Lays layout granule := by
  obtain ⟨granule, valued, paged⟩ := Granule.ofValue_known known
  refine ⟨⟨UInt64.ofNat (load + entry), UInt64.ofNat size, 0, 0⟩, granule, ?_,
    load, entry, size, code, describes, known, fits, UInt64.toNat_ofNat_of_lt' fits,
    UInt64.toNat_ofNat_of_lt' describes.imageSize.lt, rfl, rfl, paged⟩
  rw [describes.parsed, placed, valued, Except.bind, describes.layout, if_pos fits, Except.map]

theorem Refuses.parsed (refuses : list.Refuses failure) : list.parsed = .error failure := by
  cases refuses with
  | loadAddress fault =>
      rw [PropertyList.parsed, fault.required]
      rfl
  | entryOffset first fault =>
      rw [PropertyList.parsed, first.required, fault.required]
      rfl
  | imageSize first second fault =>
      rw [PropertyList.parsed, first.required, second.required, fault.required]
      rfl
  | granule first second third fault =>
      rw [PropertyList.parsed, first.required, second.required, third.required, fault.required]
      rfl
  | @unknown load entry size code describes unknown =>
      have codeKept : (UInt32.ofNat code).toNat = code :=
        UInt32.toNat_ofNat_of_lt' describes.granule.lt
      have refused := Granule.ofValue_unknown (show 2 < (UInt32.ofNat code).toNat by omega)
      rw [describes.parsed, placed, refused]
      rfl
  | overflow describes known overflows =>
      obtain ⟨granule, valued, _⟩ := Granule.ofValue_known known
      rw [describes.parsed, placed, valued, Except.bind, describes.layout,
        if_neg (Nat.not_lt.mpr overflows), Except.map]

theorem Lays.unique {layout other : PartitionLayout} {granule otherGranule : Granule}
    (lays : list.Lays layout granule) (again : list.Lays other otherGranule) :
    layout = other ∧ granule = otherGranule := by
  obtain ⟨load, entry, size, code, first, _, _, base, extent, heapBase, heapSize, paged⟩ := lays
  obtain ⟨_, _, _, _, second, _, _, otherBase, otherExtent, otherHeapBase, otherHeapSize,
    otherPaged⟩ := again
  cases first.loadAddress.unique second.loadAddress
  cases first.entryOffset.unique second.entryOffset
  cases first.imageSize.unique second.imageSize
  cases first.granule.unique second.granule
  constructor
  · cases layout
    cases other
    simp only at heapBase heapSize otherHeapBase otherHeapSize base otherBase extent otherExtent
    rw [PartitionLayout.mk.injEq, ← UInt64.toNat_inj, ← UInt64.toNat_inj]
    exact ⟨base.trans otherBase.symm, extent.trans otherExtent.symm,
      heapBase.trans otherHeapBase.symm, heapSize.trans otherHeapSize.symm⟩
  · exact Granule.pageSize_injective (paged.trans otherPaged.symm)

theorem parsed_ok_iff {layout : PartitionLayout} {granule : Granule} :
    list.parsed = .ok (layout, granule) ↔ list.Lays layout granule := by
  obtain ⟨load, entry, size, code, describes, known, fits⟩ | ⟨failure, refuses⟩ :=
    list.describes_or_refuses
  · obtain ⟨laid, sized, told, lays⟩ := describes.lays known fits
    rw [told, Except.ok.injEq, Prod.mk.injEq]
    constructor
    · rintro ⟨rfl, rfl⟩
      exact lays
    · exact lays.unique
  · rw [refuses.parsed]
    constructor
    · intro impossible
      cases impossible
    · rintro ⟨load, entry, size, code, describes, known, fits, _⟩
      obtain ⟨_, _, told, _⟩ := describes.lays known fits
      rw [refuses.parsed] at told
      cases told

theorem parsed_error_iff : list.parsed = .error failure ↔ list.Refuses failure := by
  constructor
  · intro failed
    obtain ⟨load, entry, size, code, describes, known, fits⟩ | ⟨same, refuses⟩ :=
      list.describes_or_refuses
    · obtain ⟨_, _, told, _⟩ := describes.lays known fits
      rw [failed] at told
      cases told
    · rw [refuses.parsed] at failed
      cases failed
      exact refuses
  · exact Refuses.parsed

theorem parsed_congr {other : PropertyList}
    (same : ∀ name ∈ imageNames, list.lookup name = other.lookup name) :
    list.parsed = other.parsed := by
  have required : ∀ name ∈ imageNames, ∀ width,
      list.required name width = other.required name width := by
    intro name member width
    rw [PropertyList.required, PropertyList.required, sized, sized, same name member]
  rw [parsed, parsed, required "load-address" (by decide),
    required "entrypoint-offset" (by decide), required "image-size" (by decide),
    required "xlat-granule" (by decide)]

end PropertyList

end DeviceTree

namespace Manifest

open DeviceTree

variable {manifest : Manifest} {node : Node} {list : PropertyList} {failure : BootFailure}

def found (manifest : Manifest) : Except BootFailure (Option Node) :=
  (manifest.tree.findCompatible manifest.config.manifestCompatible).result

theorem node_found (found : manifest.found = .ok (some node)) :
    manifest.node.result = .ok node := by
  rw [Manifest.found] at found
  simp only [Manifest.node, Report.result_bind, Report.result_recover, found, Except.bind,
    Report.result_pure]

theorem node_missing (missing : manifest.found = .ok none) :
    manifest.node.result = .error (.manifestMissing .noManifestNode) := by
  rw [found] at missing
  simp only [Manifest.node, Report.result_bind, Report.result_recover, missing, Except.bind,
    Report.result_failNoting]

theorem node_unreadable (failed : manifest.found = .error failure) :
    ∃ fault, failure = .manifestMalformed fault ∧
      manifest.node.result = .error (.manifestMissing (.unreadable fault)) := by
  obtain ⟨fault, rfl⟩ :=
    (manifest.tree.findCompatible_failsOnly _ failure failed).malformedManifest
  rw [found] at failed
  refine ⟨fault, rfl, ?_⟩
  simp only [Manifest.node, Report.result_bind, Report.result_recover, failed, unreadable,
    Report.result_failNoting, Except.bind]

theorem parse_of_node_error (failed : manifest.node.result = .error failure) :
    manifest.parse.result = .error failure := by
  simp only [parse, description, Report.result_bind, failed, Except.bind]

theorem found_holds (found : manifest.found = .ok (some node)) :
    ∃ list, manifest.tree.Holds node list := by
  obtain ⟨_, title, body, opened⟩ := findCompatible_found found
  exact exists_holds opened

theorem parse_parsed (located : manifest.node.result = .ok node)
    (holds : manifest.tree.Holds node list) : manifest.parse.result = list.parsed := by
  simp only [parse, description, Report.result_bind, located, Except.bind, holds.read64,
    holds.read32, Report.result_note, Report.result_pure, PropertyList.parsed]
  obtain failure | load := list.required "load-address" 8
  · rfl
  obtain failure | entry := list.required "entrypoint-offset" 4
  · rfl
  obtain failure | size := list.required "image-size" 8
  · rfl
  obtain failure | code := list.required "xlat-granule" 4
  · rfl
  show _ = PropertyList.placed load entry size code
  simp only [Except.map, PropertyList.placed]
  obtain failure | granule := (Granule.ofValue (UInt32.ofNat code)).result
  · rfl
  · simp only [Except.bind]

/-- A parse fails with the status for a missing manifest exactly where no manifest node is found.
With a node, the first properties with the four names decide, wherever in the node they stand. -/
theorem parse_of_any_bytes (manifest : Manifest) :
    ((∃ failure, manifest.parse.result = .error failure ∧ failure.status = .notFound) ↔
        ∀ node, manifest.found ≠ .ok (some node)) ∧
      (∀ failure, manifest.found = .error failure → ∃ fault,
        failure = .manifestMalformed fault ∧
          manifest.parse.result = .error (.manifestMissing (.unreadable fault))) ∧
      (manifest.found = .ok none →
        manifest.parse.result = .error (.manifestMissing .noManifestNode)) ∧
      ∀ node, manifest.found = .ok (some node) → (∃ list, manifest.tree.Holds node list) ∧
        ∀ list, manifest.tree.Holds node list →
          (∀ layout granule, manifest.parse.result = .ok (layout, granule) ↔
            list.Lays layout granule) ∧
          (∀ failure, manifest.parse.result = .error failure ↔ list.Refuses failure) ∧
          (∀ failure, list.Refuses failure → failure.status = .invalidParameter) ∧
          ∀ (other : Manifest) otherNode otherList, other.found = .ok (some otherNode) →
            other.tree.Holds otherNode otherList →
              ((∀ name ∈ PropertyList.imageNames, list.lookup name = otherList.lookup name) ∨
                list.Reordered otherList) →
              other.parse.result = manifest.parse.result := by
  refine ⟨?_, ?_, ?_, ?_⟩
  · constructor
    · rintro ⟨failure, failed, missing⟩ node found
      obtain ⟨list, holds⟩ := found_holds found
      rw [parse_parsed (node_found found) holds, PropertyList.parsed_error_iff] at failed
      rw [holds.refuses_status failed] at missing
      cases missing
    · intro nowhere
      cases found : manifest.found with
      | error failure =>
          obtain ⟨fault, _, failed⟩ := node_unreadable found
          exact ⟨_, parse_of_node_error failed, rfl⟩
      | ok answer =>
          cases answer with
          | none => exact ⟨_, parse_of_node_error (node_missing found), rfl⟩
          | some node => exact absurd found (nowhere node)
  · intro failure failed
    obtain ⟨fault, same, stopped⟩ := node_unreadable failed
    exact ⟨fault, same, parse_of_node_error stopped⟩
  · intro missing
    exact parse_of_node_error (node_missing missing)
  · intro node found
    refine ⟨found_holds found, fun list holds => ?_⟩
    rw [parse_parsed (node_found found) holds]
    refine ⟨fun layout granule => PropertyList.parsed_ok_iff,
      fun failure => PropertyList.parsed_error_iff, fun failure => holds.refuses_status, ?_⟩
    intro other otherNode otherList otherFound otherHolds alike
    rw [parse_parsed (node_found otherFound) otherHolds]
    refine (PropertyList.parsed_congr ?_).symm
    obtain same | reordered := alike
    · exact same
    · exact fun name member => reordered.lookup member

def flatManifest (properties : List FlatProperty) : Manifest where
  tree := {
    tokens := Window.ofBytes ((Opening.mk [] properties 0 [0, 0, 0]).bytes ++ closing 0 ++
      tagBytes Tag.finish)
    names := Window.ofBytes (("compatible" :: PropertyList.imageNames).flatMap fun name =>
      nameBytes name ++ [0]) }
  config := {}

def imageProperties : List FlatProperty :=
  [⟨nameBytes "compatible", nameBytes "arm,ffa-manifest-1.0" ++ [0], 0, 0, [0, 0, 0]⟩,
    ⟨nameBytes "load-address", bigEndian 8 0x1000, 0, 11, []⟩,
    ⟨nameBytes "entrypoint-offset", bigEndian 4 0x40, 0, 24, []⟩,
    ⟨nameBytes "image-size", bigEndian 8 0x2000, 0, 42, []⟩,
    ⟨nameBytes "xlat-granule", bigEndian 4 2, 0, 53, []⟩]

theorem flat_manifests_parsed :
    (flatManifest imageProperties).found = .ok (some ⟨0⟩) ∧
      (∃ list, (flatManifest imageProperties).tree.Holds ⟨0⟩ list ∧
        list.Lays ⟨0x1040, 0x2000, 0, 0⟩ .size64K) ∧
      (flatManifest imageProperties.reverse).parse.result =
        (flatManifest imageProperties).parse.result ∧
      ∃ failure, (flatManifest []).parse.result = .error failure ∧ failure.status = .notFound := by
  have found : (flatManifest imageProperties).found = .ok (some ⟨0⟩) :=
    eq_of_toOption (by decide +kernel) (by decide +kernel)
  have otherFound : (flatManifest imageProperties.reverse).found = .ok (some ⟨0⟩) :=
    eq_of_toOption (by decide +kernel) (by decide +kernel)
  have missing : (flatManifest []).found = .ok none :=
    eq_of_toOption (by decide +kernel) (by decide +kernel)
  have parsed : (flatManifest imageProperties).parse.result =
      .ok (⟨0x1040, 0x2000, 0, 0⟩, .size64K) :=
    eq_of_toOption (by decide +kernel) (by decide +kernel)
  have alike : ∀ name ∈ PropertyList.imageNames,
      (((flatManifest imageProperties).tree.property ⟨0⟩ name).result.map
          (Option.map Window.bytes)).toOption =
        (((flatManifest imageProperties.reverse).tree.property ⟨0⟩ name).result.map
          (Option.map Window.bytes)).toOption ∧
      (((flatManifest imageProperties).tree.property ⟨0⟩ name).result.map
          (Option.map Window.bytes)).toOption.isSome := by
    decide +kernel
  obtain ⟨⟨list, holds⟩, all⟩ :=
    (parse_of_any_bytes (flatManifest imageProperties)).2.2.2 ⟨0⟩ found
  obtain ⟨lays, _, _, reordered⟩ := all list holds
  obtain ⟨otherList, otherHolds⟩ := found_holds otherFound
  refine ⟨found, ⟨list, holds, (lays _ _).mp parsed⟩, ?_, ?_⟩
  · refine reordered _ ⟨0⟩ otherList otherFound otherHolds (.inl fun name member => ?_)
    rw [← holds.property, ← otherHolds.property]
    exact eq_of_toOption (alike name member).1 (alike name member).2
  · refine (parse_of_any_bytes (flatManifest [])).1.mpr fun node impossible => ?_
    rw [missing] at impossible
    cases impossible

end Manifest

end PartitionBoot
