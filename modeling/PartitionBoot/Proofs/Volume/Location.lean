import PartitionBoot.Proofs.Volume.Sections

/-!
Files and volumes as they are read: each file where it was laid out, nothing behind the last one,
and the image of the first core file.
-/

namespace PartitionBoot

namespace Volume

variable {window : Window} {file : FlatFile} {files : List FlatFile} {fill : Nat → UInt8}
  {place offset stop : Nat}

theorem FlatFile.Fits.length_frontHeader (fits : file.Fits) : file.frontHeader.length = 24 := by
  simp only [FlatFile.frontHeader, List.length_append, List.length_cons, List.length_nil,
    length_littleEndian, fits.lead]

theorem FlatFile.Fits.length_header (fits : file.Fits) :
    file.header.length = fileHeaderSize file.large := by
  rw [FlatFile.header, List.length_append, fits.length_frontHeader, fileHeaderSize]
  split <;> simp

theorem FlatFile.Fits.length_bytes (fits : file.Fits) : file.bytes.length = file.size := by
  rw [FlatFile.bytes, List.length_append, fits.length_header, FlatFile.size]

theorem shown_frontHeader {raw : Window} (shown : raw.Shows 0 file.frontHeader)
    (fits : file.Fits) : raw.byte 18 = file.kind ∧ raw.byte 19 = file.attributes ∧
      (file.large = false → raw.le24? 20 = some (UInt32.ofNat file.size)) := by
  have behind := shown.back
  rw [Nat.zero_add, fits.lead] at behind
  have named : raw.Shows 18 ([file.kind] ++ [file.attributes]) := behind.front
  refine ⟨named.front.byte, named.back.byte, fun small => ?_⟩
  · have size := fits.size
    rw [small, if_neg Bool.false_ne_true] at size
    have field := behind.back.front
    rw [small, if_neg Bool.false_ne_true] at field
    exact field.le24 size

theorem fileAt_shown (shown : window.Shows offset file.bytes) (fits : file.Fits)
    (inside : offset + file.size ≤ stop) :
    ∃ entry, (fileAt window offset stop).result = .ok (some entry) ∧ entry.kind = file.kind ∧
      entry.headerSize = fileHeaderSize file.large ∧ entry.size = file.size := by
  have length := fits.length_frontHeader
  have header := shown.front
  obtain ⟨raw, cut, held⟩ := header.front.slice
  rw [length] at cut
  obtain ⟨kind, attributes, short⟩ :=
    shown_frontHeader (header.front.part cut (by omega)) fits
  have within : fileHeaderSize file.large ≤ file.size ∧ offset + file.size ≤ stop :=
    ⟨Nat.le_add_right _ _, inside⟩
  have room : ¬ stop < offset + 24 := by
    have least : 24 ≤ fileHeaderSize file.large := by cases file.large <;> decide
    omega
  have written : raw.bytes.all (· = 0xff) = false := by
    rw [held]
    refine Bool.eq_false_iff.mpr fun erased => fits.written ?_
    exact List.eq_replicate_iff.mpr ⟨length, by simpa using erased⟩
  refine ⟨⟨file.kind, fileHeaderSize file.large, file.size, fileHeaderSize_pos _, within.1⟩, ?_,
    rfl, rfl, rfl⟩
  have large : (raw.byte 19 &&& largeFile != 0) = file.large := by rw [attributes]; rfl
  simp only [fileAt, show fileHeaderSize false = 24 from rfl, cut, room, written, decide_false,
    Bool.or_false, Bool.false_eq_true, if_false, large, kind]
  have size := fits.size
  split <;> rename_i long
  · rw [if_pos long] at size
    have read := header.back
    rw [length, if_pos long] at read
    simp only [Report.bind_ok_iff, Report.require_ok_iff]
    refine ⟨_, read.le64, file.size, congrArg Except.ok (UInt64.toNat_ofNat_of_lt size), ?_⟩
    rw [dif_pos within]
    split <;> rfl
  · rw [if_neg long] at size
    have power : Nat.pow 256 3 < 2 ^ 32 := by decide
    simp only [Report.bind_ok_iff, Report.require_ok_iff]
    refine ⟨_, short (Bool.eq_false_iff.mpr long), file.size,
      congrArg Except.ok (UInt32.toNat_ofNat_of_lt (Nat.lt_trans size power)), ?_⟩
    rw [dif_pos within]
    split <;> rfl

theorem fileAt_erased {count : Nat} (shown : window.Shows place (List.replicate count 0xff))
    (low : place ≤ offset) (all : window.size = place + count) :
    (fileAt window offset stop).result = .ok none := by
  rw [fileAt]
  cases cut : window.slice? offset (fileHeaderSize false) with
  | none => rfl
  | some raw =>
      have header : fileHeaderSize false = 24 := rfl
      have inside := Window.slice?_bound cut
      have split : List.replicate count (0xff : UInt8) = List.replicate (offset - place) 0xff ++
          (List.replicate 24 0xff ++ List.replicate (place + count - (offset + 24)) 0xff) := by
        rw [List.replicate_append_replicate, List.replicate_append_replicate]
        congr 1
        omega
      rw [split] at shown
      have here := shown.back.front
      rw [List.length_replicate, Nat.add_sub_cancel' low] at here
      have erased : raw.bytes = List.replicate 24 0xff := by
        obtain ⟨_, rfl⟩ := Window.slice?_eq_some_iff.mp cut
        exact (here.part cut (by simp [header])).bytes_eq (by simp [header])
      simp only [erased, List.all_replicate, Nat.reduceEqDiff, decide_true, if_false, Bool.or_true,
        if_true, Report.result_pure]

theorem shown_file (shown : window.Shows place (fileBytes fill place (file :: files)))
    (fits : file.Fits) : window.Shows (alignUp place 8) file.bytes ∧
      window.Shows (alignUp place 8 + file.size)
        (fileBytes fill (alignUp place 8 + file.size) files) := by
  have low := le_alignUp place (show 0 < 8 by decide)
  have behind := shown.back
  rw [length_gap, Nat.add_sub_cancel' low] at behind
  have further := behind.back
  rw [fits.length_bytes] at further
  exact ⟨behind.front, further⟩

theorem alignUp_eight (place : Nat) : alignUp place 8 % 8 = 0 := by
  simp only [alignUp]
  omega

theorem shown_body {start : Nat} (aligned : start % 8 = 0) (shown : window.Shows start file.bytes)
    (fits : file.Fits) : (start + fileHeaderSize file.large) % 4 = 0 ∧
      window.Shows (start + fileHeaderSize file.large)
        (sectionBytes file.fill 0 file.sections) := by
  have body := shown.back
  rw [fits.length_header] at body
  refine ⟨?_, body⟩
  have header : fileHeaderSize file.large % 4 = 0 := by cases file.large <;> rfl
  omega

theorem findImage_shown_file {start : Nat} (aligned : start % 8 = 0)
    (shown : window.Shows start file.bytes) (fits : file.Fits) :
    (findImage window (start + fileHeaderSize file.large) (start + file.size)).result =
      .ok ((imageOf (PlacedFile.sections ⟨start, file⟩)).map PlacedSection.location) := by
  obtain ⟨four, body⟩ := shown_body aligned shown fits
  refine findImage_shown four body fits.sections ?_
  rw [FlatFile.size, FlatFile.body, Nat.add_assoc]

theorem shown_of_mem_placeFiles (shown : window.Shows place (fileBytes fill place files))
    (fits : ∀ file ∈ files, file.Fits) : ∀ placed ∈ placeFiles place files,
      placed.start % 8 = 0 ∧ placed.file.Fits ∧ window.Shows placed.start placed.file.bytes := by
  induction files generalizing place with
  | nil => simp [placeFiles]
  | cons file rest ih =>
      rw [List.forall_mem_cons] at fits
      obtain ⟨first, further⟩ := shown_file shown fits.1
      rw [placeFiles, List.forall_mem_cons]
      exact ⟨⟨alignUp_eight place, fits.1, first⟩, ih further fits.2⟩

def locationIn (placed : List PlacedFile) : Except BootFailure ImageLocation :=
  match (placed.find? fun placed => placed.file.kind = coreFileKind).bind fun placed =>
    imageOf placed.sections with
  | none => .error .imageNotFound
  | some found => .ok found.location

theorem locateFrom_shown {erased : Nat}
    (shown : window.Shows place (fileBytes fill place files)) (fits : ∀ file ∈ files, file.Fits)
    (tail : window.Shows (place + (fileBytes fill place files).length)
      (List.replicate erased 0xff))
    (all : stop = place + (fileBytes fill place files).length + erased)
    (whole : window.size = stop) (aligned : stop % 8 = 0) :
    (locateFrom window (alignUp place 8) stop).result = locationIn (placeFiles place files) := by
  induction files generalizing place with
  | nil =>
      simp only [fileBytes, List.length_nil, Nat.add_zero] at tail all
      rw [locateFrom]
      split
      · rw [Report.result_bind, fileAt_erased tail (le_alignUp place (by decide)) (by omega)]
        rfl
      · rfl
  | cons file rest ih =>
      have low := le_alignUp place (show 0 < 8 by decide)
      have fit := fits file List.mem_cons_self
      obtain ⟨first, further⟩ := shown_file shown fit
      have length : place + (fileBytes fill place (file :: rest)).length =
          alignUp place 8 + file.size +
            (fileBytes fill (alignUp place 8 + file.size) rest).length := by
        simp only [fileBytes, List.length_append, length_gap, fit.length_bytes]
        omega
      rw [length] at tail all
      have inside : alignUp place 8 + file.size ≤ stop := by omega
      obtain ⟨entry, read, kind, headerSize, size⟩ := fileAt_shown first fit inside
      have more := ih further (fun file member => fits file (List.mem_cons_of_mem _ member)) tail
        all
      have before : alignUp place 8 < stop := by
        have positive := fileHeaderSize_pos file.large
        have size : file.size = fileHeaderSize file.large + file.body.length := rfl
        omega
      rw [locateFrom, dif_pos before, Report.result_bind, read]
      simp only [Except.bind, kind]
      -- The first core file ends the search, with or without an image in it.
      by_cases core : file.kind = coreFileKind
      · rw [if_pos core, headerSize, size, Report.result_bind, Report.result_note]
        simp only [Except.bind, Report.result_bind]
        rw [findImage_shown_file (alignUp_eight place) first fit]
        simp only [locationIn, placeFiles, core, List.find?_cons, decide_true, Option.bind_some]
        generalize PlacedFile.sections ⟨alignUp place 8, file⟩ = sections
        cases imageOf sections with
        | none => rfl
        | some image => rfl
      · rw [if_neg core, size, more]
        simp [locationIn, placeFiles, core]

variable {volume : FlatVolume}

theorem FlatVolume.Fits.length_header (fits : volume.Fits) :
    volume.header.length = volume.headerLength := by
  simp only [FlatVolume.header, List.length_append, length_littleEndian, fits.lead,
    fits.attributes, fits.checksum, fits.revision, FlatVolume.headerLength]
  omega

theorem FlatVolume.filesEnd_le_length (volume : FlatVolume) : volume.filesEnd ≤ volume.length :=
  Nat.le_trans (Nat.le_add_right _ _) (le_alignUp _ (by decide))

theorem FlatVolume.Fits.length_bytes (fits : volume.Fits) :
    volume.bytes.length = volume.length := by
  have ends := volume.filesEnd_le_length
  simp only [FlatVolume.bytes, List.length_append, fits.length_header, List.length_replicate]
  simp only [FlatVolume.filesEnd, FlatVolume.headersEnd] at ends ⊢
  omega

theorem shown_fields (shown : window.Shows 0 volume.header) (fits : volume.Fits) :
    window.le64? 32 = some (UInt64.ofNat volume.length) ∧ window.le32? 40 = some signature ∧
      window.le16? 48 = some (UInt16.ofNat volume.headerLength) ∧
      window.le16? 52 = some (UInt16.ofNat volume.extensionOffset) := by
  have length := shown.back
  have mark := length.back
  have headerLength := mark.back.back
  have extension := headerLength.back.back
  simp only [fits.lead, fits.attributes, fits.checksum, length_littleEndian, Nat.zero_add,
    Nat.reduceAdd] at length mark headerLength extension
  exact ⟨length.front.le64, mark.front.le32, headerLength.front.le16, extension.front.le16⟩

theorem shown_extension {extension : Extension} (shown : window.Shows 0 volume.bytes)
    (fits : volume.Fits) (present : volume.extension = some extension) :
    window.le32? (volume.headerLength + extension.gap.length + 16) =
      some (UInt32.ofNat extension.size) := by
  have behind := shown.back.front
  rw [fits.length_header, Nat.zero_add, FlatVolume.extensionBytes, present] at behind
  have size := behind.back.back
  rw [(fits.extension extension present).1] at size
  exact size.front.le32

theorem FlatVolume.headersEnd_of_none (absent : volume.extension = none) :
    volume.extensionOffset = 0 ∧ volume.headersEnd = volume.headerLength := by
  simp only [extensionOffset, headersEnd, extensionBytes, absent, List.length_nil, Nat.add_zero,
    and_self]

theorem FlatVolume.Fits.headersEnd_of_some {extension : Extension} (fits : volume.Fits)
    (present : volume.extension = some extension) :
    volume.extensionOffset = volume.headerLength + extension.gap.length ∧
      volume.headersEnd = volume.extensionOffset + extension.size := by
  have lead := (fits.extension extension present).1
  simp only [FlatVolume.extensionOffset, FlatVolume.headersEnd, FlatVolume.extensionBytes, present,
    Extension.bytes, Extension.size, List.length_append, length_littleEndian, lead, true_and]
  omega

theorem FlatVolume.firstFile_bounds (volume : FlatVolume) :
    headerSize ≤ alignUp volume.headersEnd 8 ∧ alignUp volume.headersEnd 8 ≤ volume.length := by
  have header : headerSize = 56 := rfl
  simp only [FlatVolume.length, FlatVolume.filesEnd, FlatVolume.headersEnd,
    FlatVolume.headerLength, alignUp]
  omega

theorem fileArea_shown (shown : window.Shows 0 volume.bytes) (fits : volume.Fits)
    (whole : window.size = volume.length) :
    (fileArea window).result = .ok (alignUp volume.headersEnd 8, volume.length) := by
  obtain ⟨lengthRead, mark, headerLength, extension⟩ := shown_fields shown.front fits
  have length : (UInt64.ofNat volume.length).toNat = volume.length :=
    UInt64.toNat_ofNat_of_lt fits.length
  rw [fileArea, mark]
  simp only [bne_self_eq_false, Bool.false_eq_true, if_false, Report.bind_ok_iff,
    Report.require_ok_iff]
  refine ⟨_, lengthRead, ?_⟩
  rw [length, if_neg (by omega)]
  simp only [Report.bind_ok_iff, Report.require_ok_iff]
  refine ⟨_, headerLength, _, extension, ?_⟩
  have inside : ¬ (decide (alignUp volume.headersEnd 8 < headerSize) ||
      decide (volume.length < alignUp volume.headersEnd 8)) = true := by
    have bounds := volume.firstFile_bounds
    simp only [Bool.or_eq_true, decide_eq_true_eq]
    omega
  have headerEnds : (UInt16.ofNat volume.headerLength).toNat = volume.headerLength :=
    UInt16.toNat_ofNat_of_lt fits.headerLength
  cases present : volume.extension with
  | none =>
      obtain ⟨absent, ends⟩ := FlatVolume.headersEnd_of_none present
      rw [if_pos (by rw [absent]; rfl)]
      simp only [Report.bind_ok_iff]
      refine ⟨volume.headersEnd, by rw [ends, headerEnds]; rfl, ?_⟩
      rw [if_neg inside]
      rfl
  | some held =>
      obtain ⟨behind, ends⟩ := fits.headersEnd_of_some present
      have place : (UInt16.ofNat volume.extensionOffset).toNat = volume.extensionOffset :=
        UInt16.toNat_ofNat_of_lt fits.extensionOffset
      have size : (UInt32.ofNat held.size).toNat = held.size :=
        UInt32.toNat_ofNat_of_lt (fits.extension held present).2
      have placed : UInt16.ofNat volume.extensionOffset ≠ 0 := by
        intro none
        rw [none] at place
        simp only [FlatVolume.headerLength] at behind
        have zero : (0 : UInt16).toNat = 0 := rfl
        omega
      rw [if_neg placed, place, behind]
      simp only [Report.bind_ok_iff, Report.require_ok_iff]
      refine ⟨_, shown_extension shown fits present, volume.headersEnd, ?_, ?_⟩
      · rw [ends, behind, size]
        rfl
      · rw [if_neg inside]
        rfl

theorem locateImage_shown (shown : window.Shows 0 volume.bytes) (fits : volume.Fits)
    (whole : window.size = volume.length) :
    (locateImage window).result = locationIn volume.placedFiles := by
  have behind := shown.back.back
  rw [fits.length_header, Nat.zero_add] at behind
  have ends := volume.filesEnd_le_length
  rw [locateImage, Report.result_bind, fileArea_shown shown fits whole]
  exact locateFrom_shown behind.front fits.files behind.back (Nat.add_sub_cancel' ends).symm
    whole (alignUp_eight _)

theorem shown_image (shown : window.Shows 0 volume.bytes) (fits : volume.Fits)
    {found : PlacedSection} (image : volume.image? = some found) :
    window.Shows found.location.offset found.leaf.data := by
  have files := shown.back.back.front
  rw [fits.length_header, Nat.zero_add] at files
  obtain ⟨placed, core, member⟩ := Option.bind_eq_some_iff.mp image
  obtain ⟨eight, fit, here⟩ := shown_of_mem_placeFiles files fits.files placed
    (List.mem_of_find?_eq_some core)
  obtain ⟨four, body⟩ := shown_body eight here fit
  have leaf := shown_of_mem_placeSections 0 four body found (mem_of_imageOf member)
  have data := leaf.back
  rw [FlatSection.length_header] at data
  exact data

/-- The core image of a volume is found where it was laid out, and there is no image exactly if
there is no core file or the first one holds none. -/
theorem locateImage_finds_image (fits : volume.Fits) (held : window.bytes = volume.bytes) :
    match volume.image? with
    | none => (locateImage window).result = .error .imageNotFound
    | some found => (locateImage window).result = .ok found.location ∧
        (window.slice? found.location.offset found.location.size).map Window.bytes =
          some found.leaf.data := by
  have shown := window.shows_bytes
  rw [held] at shown
  have whole : window.size = volume.length := by
    rw [← fits.length_bytes, ← held, Window.bytes, Memory.length_readBytes]
  have located := locateImage_shown shown fits whole
  cases image : volume.image? with
  | none =>
      rw [FlatVolume.image?] at image
      rw [located, locationIn, image]
  | some found =>
      have same := image
      rw [FlatVolume.image?] at same
      refine ⟨by rw [located, locationIn, same], ?_⟩
      obtain ⟨part, cut, bytes⟩ := (shown_image shown fits image).slice
      rw [show found.location.size = found.leaf.data.length from rfl, cut, Option.map_some, bytes]

/-- A volume of a driver with an image of its own, and a core file with a large header whose image
stands behind another section and has a large header too. -/
def driverAndCore : FlatVolume where
  lead := List.replicate 32 0
  attributes := [0xff, 0xfe, 4, 0]
  checksum := [0, 0]
  revision := [0, 2]
  blockMap := List.replicate 16 0
  extension := some ⟨[], List.replicate 16 1, [5]⟩
  files := [
    ⟨List.replicate 18 0xaa, 7, 0, 0, 0xf8, [⟨pe32Kind, false, [1, 2, 3]⟩], fun _ => 0⟩,
    ⟨List.replicate 18 0xbb, coreFileKind, largeFile, 0, 0xf8,
      [⟨teKind, false, [4, 5]⟩, ⟨pe32Kind, true, [7, 8, 9]⟩], fun _ => 0⟩]
  fill _ := 0xff
  erased := 30

theorem locateImage_finds_core_image :
    let window := Window.ofBytes driverAndCore.bytes
    (locateImage window).result = .ok ⟨176, 3, pe32Kind⟩ ∧
      (window.slice? 176 3).map Window.bytes = some [7, 8, 9] := by
  intro window
  have files : ∀ file ∈ driverAndCore.files, file.Fits := by
    simp only [driverAndCore, List.forall_mem_cons]
    refine ⟨⟨?_, ?_, ?_, ?_⟩, ⟨?_, ?_, ?_, ?_⟩, by simp⟩ <;> decide +kernel
  have fits : driverAndCore.Fits := by
    refine ⟨?_, ?_, ?_, ?_, ?_, ?_, ?_, ?_, files⟩ <;> decide +kernel
  have image : driverAndCore.image? = some ⟨168, ⟨pe32Kind, true, [7, 8, 9]⟩⟩ := by
    decide +kernel
  have held : window.bytes = driverAndCore.bytes := by decide +kernel
  have found := locateImage_finds_image fits held
  rw [image] at found
  exact found

end Volume

end PartitionBoot
