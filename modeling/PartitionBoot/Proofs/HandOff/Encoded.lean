import PartitionBoot.Proofs.HandOff.Table

/-!
Blobs that spell a list of descriptors, and what any blob gives for the address of the manifest. The
header says where the table begins and how far apart its descriptors stand; however it says so, the
first descriptor of a manifest is found.
-/

namespace PartitionBoot

namespace HandOff

variable {blob : Window} {list : List Descriptor} {index : Nat}

/-- The bytes of a descriptor. One of them is reserved. -/
def Descriptor.bytes (reserved : UInt8) (found : Descriptor) : List UInt8 :=
  found.name ++ ([found.kind] ++ ([reserved] ++ (littleEndian 2 found.flags.toNat ++
    (littleEndian 4 found.size.toNat ++ littleEndian 8 found.content.toNat))))

theorem Descriptor.length_bytes {found : Descriptor} (named : found.name.length = kindField)
    (reserved : UInt8) : (found.bytes reserved).length = HandOff.descriptorSize := by
  simp only [bytes, List.length_append, List.length_singleton, length_littleEndian, named]
  rfl

/-- A blob spells these descriptors, each where its header places it. -/
structure Spells (blob : Window) (list : List Descriptor) : Prop where
  counted : (headerOf blob).descriptorCount.toNat = list.length
  sound : (headerOf blob).Sound
  names : ∀ found ∈ list, found.name.length = kindField
  rows : ∀ index (inside : index < list.length), ∃ reserved,
    blob.Shows ((headerOf blob).place index) (list[index].bytes reserved)

def answer (list : List Descriptor) : Except BootFailure UInt64 :=
  match list.find? Descriptor.isManifest with
  | some found =>
      if found.content = 0 then .error (.manifestMissing .noManifestDescriptor)
      else .ok found.content
  | none => .error (.manifestMissing .noManifestDescriptor)

namespace Spells

theorem kind (spells : Spells blob list) (inside : index < list.length) :
    blob.byte ((headerOf blob).place index + kindField) = list[index].kind := by
  obtain ⟨reserved, shown⟩ := spells.rows index inside
  have behind := shown.back.front
  rw [spells.names _ (List.getElem_mem inside)] at behind
  exact behind.byte

theorem content (spells : Spells blob list) (inside : index < list.length) :
    (framed blob).contentAt index = list[index].content := by
  obtain ⟨reserved, shown⟩ := spells.rows index inside
  have behind := shown.back.back.back.back.back
  simp only [spells.names _ (List.getElem_mem inside), List.length_singleton,
    length_littleEndian] at behind
  have read := Window.number_of_le64? behind.le64
  rw [UInt64.ofNat_toNat] at read
  rw [contentAt_framed]
  exact (congrArg UInt64.ofNat read).trans UInt64.ofNat_toNat

theorem named (spells : Spells blob list) : (framed blob).named = answer list := by
  have manifest (index : Nat) (inside : index < list.length) :
      list[index].isManifest = true ↔
        blob.byte ((headerOf blob).place index + kindField) = 0 := by
    rw [spells.kind inside]
    exact isManifestKind_iff
  rw [HandOff.named, answer]
  cases first : (framed blob).manifestIndex? with
  | none =>
      have absent : list.find? Descriptor.isManifest = none := by
        refine List.find?_eq_none.mpr fun found member told => ?_
        obtain ⟨index, inside, rfl⟩ := List.mem_iff_getElem.mp member
        have passed := List.find?_eq_none.mp first index
          (List.mem_range.mpr (by rw [framed, spells.counted]; exact inside))
        rw [isManifestKind_iff, kindAt_framed] at passed
        exact passed ((manifest index inside).mp told)
      rw [absent]
  | some index =>
      obtain ⟨counted, kind, earlier⟩ := manifestIndex?_framed.mp first
      rw [spells.counted] at counted
      have found : list.find? Descriptor.isManifest = some list[index] := by
        refine List.find?_eq_some_iff_getElem.mpr
          ⟨(manifest index counted).mpr kind, index, counted, rfl, fun before low => ?_⟩
        rw [Bool.not_eq_true', ← Bool.not_eq_true, manifest before (by omega)]
        exact earlier before low
      rw [found]
      simp only [spells.content counted]

end Spells

/-- A blob that is laid out for a list of descriptors. The table begins at any offset behind the
fields of the header, and its descriptors stand a stride apart. -/
structure FlatHandOff where
  version : UInt32
  offset : Nat
  stride : Nat
  size : Nat
  list : List Descriptor
  /-- What stands where no field does. -/
  fill : Nat → UInt8

namespace FlatHandOff

variable {flat : FlatHandOff}

def fields (flat : FlatHandOff) : List UInt8 :=
  littleEndian 4 signature.toNat ++ (littleEndian 4 flat.version.toNat ++
    (littleEndian 4 flat.size ++ (littleEndian 4 flat.stride ++
      (littleEndian 4 flat.list.length ++ littleEndian 4 flat.offset))))

def rowBytes (flat : FlatHandOff) (index : Nat) : List UInt8 :=
  (flat.list[index]?.map fun found =>
    found.bytes (flat.fill (flat.offset + index * flat.stride + kindField + 1))).getD []

def byteAt (flat : FlatHandOff) (place : Nat) : UInt8 :=
  if place < fieldsSize then flat.fields.getD place 0
  else if flat.offset ≤ place then
    (flat.rowBytes ((place - flat.offset) / flat.stride)).getD ((place - flat.offset) % flat.stride)
      (flat.fill place)
  else flat.fill place

def bytes (flat : FlatHandOff) : List UInt8 := (List.range flat.size).map flat.byteAt

structure Fits (flat : FlatHandOff) : Prop where
  behind : fieldsSize ≤ flat.offset
  offset : flat.offset < UInt32.size
  wide : HandOff.descriptorSize ≤ flat.stride
  stride : flat.stride < UInt32.size
  least : headerSize ≤ flat.size
  size : flat.size < UInt32.size
  count : flat.list.length < UInt32.size
  names : ∀ found ∈ flat.list, found.name.length = kindField
  rows : ∀ index < flat.list.length,
    flat.offset + index * flat.stride + HandOff.descriptorSize ≤ flat.size

theorem byte_shown (shown : blob.Shows 0 flat.bytes) {place : Nat} (inside : place < flat.size) :
    blob.byte place = flat.byteAt place := by
  have here := shown.2 place (by simpa [bytes] using inside)
  rw [Nat.zero_add] at here
  simpa [bytes, inside] using here.symm

theorem length_fields (flat : FlatHandOff) : flat.fields.length = fieldsSize := by
  simp only [fields, List.length_append, length_littleEndian]
  rfl

theorem shows_fields (shown : blob.Shows 0 flat.bytes) (least : fieldsSize ≤ flat.size) :
    blob.Shows 0 flat.fields := by
  have whole := shown.1
  simp only [bytes, List.length_map, List.length_range] at whole
  have length := flat.length_fields
  refine ⟨by omega, fun index inside => ?_⟩
  rw [Nat.zero_add, byte_shown shown (by omega), byteAt, if_pos (by omega),
    List.getD_eq_getElem?_getD, List.getElem?_eq_getElem inside, Option.getD_some]

theorem shows_row (fits : flat.Fits) (shown : blob.Shows 0 flat.bytes)
    (inside : index < flat.list.length) :
    blob.Shows (flat.offset + index * flat.stride) (flat.rowBytes index) := by
  have length : (flat.rowBytes index).length = HandOff.descriptorSize := by
    rw [rowBytes, List.getElem?_eq_getElem inside]
    exact Descriptor.length_bytes (fits.names _ (List.getElem_mem inside)) _
  have room := fits.rows index inside
  have whole := shown.1
  have behind := fits.behind
  have wide := fits.wide
  have width : HandOff.descriptorSize = 32 := rfl
  simp only [bytes, List.length_map, List.length_range] at whole
  refine ⟨by omega, fun column within => ?_⟩
  have ahead : flat.offset + index * flat.stride + column - flat.offset =
      column + index * flat.stride := by
    omega
  have positive : 0 < flat.stride := by omega
  rw [byte_shown shown (by omega), byteAt, if_neg (by omega), if_pos (by omega), ahead,
    Nat.add_mul_div_right _ _ positive, Nat.div_eq_of_lt (by omega), Nat.zero_add,
    Nat.add_mul_mod_self_right, Nat.mod_eq_of_lt (by omega), List.getD_eq_getElem?_getD,
    List.getElem?_eq_getElem within, Option.getD_some]

theorem headerOf_shown (fits : flat.Fits) (shown : blob.Shows 0 flat.bytes) :
    headerOf blob = ⟨signature, flat.version, UInt32.ofNat flat.size, UInt32.ofNat flat.stride,
      UInt32.ofNat flat.list.length, UInt32.ofNat flat.offset⟩ := by
  have fields := shows_fields shown (Nat.le_trans (by decide) fits.least)
  have version := fields.back
  have size := version.back
  have stride := size.back
  have count := stride.back
  have offset := count.back
  simp only [length_littleEndian, Nat.zero_add, Nat.reduceAdd] at version size stride count offset
  have word {place value : Nat} (read : blob.le32? place = some (UInt32.ofNat value)) :
      UInt32.ofNat (blob.number ⟨place, 4⟩) = UInt32.ofNat value := by
    rw [Window.number_of_le32? read, UInt32.ofNat_toNat]
  simp only [headerOf, word fields.front.le32, word version.front.le32, word size.front.le32,
    word stride.front.le32, word count.front.le32, word offset.le32, UInt32.ofNat_toNat]

theorem spells (fits : flat.Fits) (shown : blob.Shows 0 flat.bytes) :
    Acceptable blob ∧ Spells blob flat.list := by
  have whole := shown.1
  have least := fits.least
  simp only [bytes, List.length_map, List.length_range] at whole
  have value {number : Nat} (bound : number < UInt32.size) : (UInt32.ofNat number).toNat = number :=
    UInt32.toNat_ofNat_of_lt bound
  have place (index : Nat) :
      (headerOf blob).place index = flat.offset + index * flat.stride := by
    rw [Header.place, headerOf_shown fits shown]
    simp only [value fits.offset, value fits.stride]
  refine ⟨⟨by omega, by rw [headerOf_shown fits shown], ?_, ?_⟩, ?_, ?_, fits.names, ?_⟩
  · simpa only [headerOf_shown fits shown, value fits.size] using least
  · simp only [headerOf_shown fits shown, value fits.size]
    omega
  · simp only [headerOf_shown fits shown, value fits.count]
  · intro index counted
    rw [Header.Fits, place]
    simp only [headerOf_shown fits shown, value fits.count, value fits.size,
      value fits.stride] at counted ⊢
    exact ⟨fits.wide, fits.rows index counted⟩
  · intro index inside
    have row := shows_row fits shown inside
    rw [rowBytes, List.getElem?_eq_getElem inside] at row
    exact ⟨_, by rw [place]; exact row⟩

end FlatHandOff

theorem manifestAddress_unsound {handOff : HandOff} (whole : handOff.Framed)
    (unsound : ¬ handOff.header.Sound) :
    ∃ fault, handOff.manifestAddress.result = .error (.manifestMalformed fault) := by
  rw [manifestAddress_result whole, if_neg unsound]
  exact ⟨_, rfl⟩

theorem manifestAddress_framed_iff {address : UInt64} :
    (framed blob).manifestAddress.result = .ok address ↔
      (headerOf blob).Sound ∧ Leads blob address ∧ address ≠ 0 := by
  rw [manifestAddress_result (framed_framed blob), ← named_framed_iff]
  show (if (headerOf blob).Sound then _ else _) = _ ↔ _
  split
  · rename_i sound
    exact (and_iff_right sound).symm
  · rename_i unsound
    exact iff_of_false (fun told => by cases told) fun told => unsound told.1

theorem manifestAddress_absent (sound : (headerOf blob).Sound)
    (absent : ¬ ∃ address, Leads blob address ∧ address ≠ 0) :
    (framed blob).manifestAddress.result = .error (.manifestMissing .noManifestDescriptor) := by
  rw [manifestAddress_result (framed_framed blob)]
  refine (if_pos sound).trans ?_
  cases told : (framed blob).named with
  | error failure => rw [named_error _ told]
  | ok address => exact absurd ⟨address, named_framed_iff.mp told⟩ absent

theorem Spells.located (spells : Spells blob list) :
    (framed blob).manifestAddress.result = answer list := by
  rw [manifestAddress_result (framed_framed blob), ← spells.named]
  exact if_pos spells.sound

/-- A blob is accepted for its signature and its size. Then the first descriptor of a manifest gives
the address, unless that is null or a descriptor that the header counts does not lie in the blob.
Bytes that spell a list of descriptors give the address in the first one of a manifest, and those
behind the size of the blob have no part in it. -/
theorem address_of_any_bytes (blob : Window) :
    ((∃ handOff, (ofWindow blob).result = .ok handOff) ↔
        headerSize ≤ blob.size ∧ (headerOf blob).signature = signature ∧
          headerSize ≤ (headerOf blob).blobSize.toNat ∧
          (headerOf blob).blobSize.toNat ≤ blob.size) ∧
      (∀ handOff, (ofWindow blob).result = .ok handOff → handOff.header = headerOf blob ∧
        (∀ address, handOff.manifestAddress.result = .ok address ↔
          handOff.header.Sound ∧ Leads blob address ∧ address ≠ 0) ∧
        (¬ handOff.header.Sound → ∃ fault,
          handOff.manifestAddress.result = .error (.manifestMalformed fault)) ∧
        (handOff.header.Sound → (¬ ∃ address, Leads blob address ∧ address ≠ 0) →
          handOff.manifestAddress.result = .error (.manifestMissing .noManifestDescriptor)) ∧
        ∀ list, Spells blob list → handOff.manifestAddress.result = answer list) ∧
      (∀ flat : FlatHandOff, flat.Fits → blob.Shows 0 flat.bytes →
        (ofWindow blob >>= manifestAddress).result = answer flat.list) ∧
      (∀ index < (headerOf blob).descriptorCount.toNat,
        (headerOf blob).place index + HandOff.descriptorSize < UInt64.size) ∧
      ∀ other, Alike blob other →
        (ofWindow other >>= manifestAddress).result =
          (ofWindow blob >>= manifestAddress).result := by
  refine ⟨?_, ?_, ?_, fun index => place_lt_size, fun other alike => alike.located⟩
  · simp only [ofWindow_ok_iff, exists_and_left, exists_eq, and_true]
    rfl
  · intro handOff accepted
    obtain ⟨_, rfl⟩ := ofWindow_ok_iff.mp accepted
    exact ⟨rfl, fun address => manifestAddress_framed_iff,
      manifestAddress_unsound (framed_framed blob), manifestAddress_absent,
      fun list spells => spells.located⟩
  · intro flat fits shown
    obtain ⟨acceptable, spells⟩ := flat.spells fits shown
    rw [Report.result_bind, ofWindow_ok_iff.mpr ⟨acceptable, rfl⟩]
    exact spells.located

def fourDescriptors : FlatHandOff where
  version := 0x10001
  offset := 40
  stride := 48
  size := 216
  list :=
    let named (kind : UInt8) (content : UInt64) : Descriptor :=
      ⟨List.replicate 16 0x61, kind, 0, 0x1000, content⟩
    [named 1 0x1111, named 0x80 0x2222, named 0 0x40001000, named 0 0x3333]
  fill _ := 0xee

/-- The third descriptor gives the address, with bytes behind the blob and without them. A fifth one
that is counted but has no place in the blob spoils it. -/
theorem third_descriptor_leads :
    let blob := Window.ofBytes (fourDescriptors.bytes ++ [1, 2, 3])
    let cut := Window.ofBytes (fourDescriptors.bytes.set 16 5)
    fourDescriptors.Fits ∧ blob.Shows 0 fourDescriptors.bytes ∧
      (ofWindow blob >>= manifestAddress).result = .ok 0x40001000 ∧
      Alike blob (Window.ofBytes fourDescriptors.bytes) ∧
      (ofWindow (Window.ofBytes fourDescriptors.bytes) >>= manifestAddress).result =
        .ok 0x40001000 ∧
      Acceptable cut ∧ ¬ (headerOf cut).Sound ∧
      ∃ fault, (ofWindow cut >>= manifestAddress).result = .error (.manifestMalformed fault) := by
  intro blob cut
  have fits : fourDescriptors.Fits := by
    refine ⟨?_, ?_, ?_, ?_, ?_, ?_, ?_, ?_, ?_⟩ <;> decide +kernel
  have shown : blob.Shows 0 fourDescriptors.bytes := Window.shows_ofBytes _ _
  have bare : (Window.ofBytes fourDescriptors.bytes).Shows 0 fourDescriptors.bytes := by
    simpa only [List.append_nil] using Window.shows_ofBytes fourDescriptors.bytes []
  have length : max headerSize (headerOf blob).blobSize.toNat = fourDescriptors.bytes.length := by
    decide +kernel
  have alike : Alike blob (Window.ofBytes fourDescriptors.bytes) :=
    ⟨by decide +kernel, by decide +kernel, by rw [length]; exact shown.same_bytes bare⟩
  obtain ⟨_, _, spelled, _, framed⟩ := address_of_any_bytes blob
  have led : (ofWindow blob >>= manifestAddress).result = .ok 0x40001000 :=
    (spelled _ fits shown).trans (by rfl)
  have acceptable : Acceptable cut := by
    refine ⟨?_, ?_, ?_, ?_⟩ <;> decide +kernel
  have unsound : ¬ (headerOf cut).Sound := by decide +kernel
  refine ⟨fits, shown, led, alike, (framed _ alike).trans led, acceptable, unsound, ?_⟩
  obtain ⟨handOff, accepted⟩ := (address_of_any_bytes cut).1.mpr acceptable
  obtain ⟨header, _, malformed, _⟩ := (address_of_any_bytes cut).2.1 handOff accepted
  rw [Report.result_bind, accepted]
  exact malformed (header ▸ unsound)

end HandOff

end PartitionBoot
