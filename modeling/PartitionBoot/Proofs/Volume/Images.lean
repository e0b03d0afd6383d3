import PartitionBoot.Proofs.Image.Confined
import PartitionBoot.Proofs.Volume.Searches

/-!
The image of a volume in arbitrary bytes. A search for it comes to one of six ends that the headers
of the volume, its files and the sections of the first core file decide. An image that is found
lies in the body of that file; the bytes behind the length that the volume declares have no part in
it, also where a header is read before it is known to lie inside.
-/

namespace PartitionBoot

namespace Volume

variable {volume other : Window} {place core : Nat}

/-! The area of the files. -/

def declaredLength (volume : Window) : Nat := volume.number ⟨32, 8⟩

def extensionOffset (volume : Window) : Nat := volume.number ⟨52, 2⟩

def firstFile (volume : Window) : Nat :=
  alignUp (if extensionOffset volume = 0 then volume.number ⟨48, 2⟩
    else extensionOffset volume + volume.number ⟨extensionOffset volume + 16, 4⟩) 8

/-- A volume whose headers lie in the length that it declares, and that length in the bytes. -/
structure Sound (volume : Window) : Prop where
  signed : volume.number ⟨40, 4⟩ = signature.toNat
  inside : declaredLength volume ≤ volume.size
  extended : extensionOffset volume ≠ 0 → extensionOffset volume + 20 ≤ volume.size
  low : headerSize ≤ firstFile volume
  high : firstFile volume ≤ declaredLength volume

theorem area_failsOnly (first length : Nat) :
    (if (decide (first < headerSize) || decide (length < first)) = true then Report.fail malformed
      else pure (first, length) : Report BootFailure (Nat × Nat)).FailsOnly (· = malformed) := by
  split
  · exact Report.failsOnly_fail rfl
  · exact Report.failsOnly_pure _

theorem fileArea_failsOnly (volume : Window) : (fileArea volume).FailsOnly (· = malformed) := by
  rw [fileArea]
  split
  · exact Report.failsOnly_failNoting _ rfl
  · refine Report.failsOnly_bind (Report.failsOnly_require _ rfl) fun length _ => ?_
    split
    · exact Report.failsOnly_fail rfl
    · refine Report.failsOnly_bind (Report.failsOnly_require _ rfl) fun headerLength _ => ?_
      refine Report.failsOnly_bind (Report.failsOnly_require _ rfl) fun extension _ => ?_
      split
      · exact area_failsOnly _ _
      · exact Report.failsOnly_bind (Report.failsOnly_require _ rfl) fun size _ => area_failsOnly _ _

theorem area_ok_iff {first length : Nat} {area : Nat × Nat} :
    (if (decide (first < headerSize) || decide (length < first)) = true then Report.fail malformed
      else pure (first, length) : Report BootFailure (Nat × Nat)).result = .ok area ↔
        headerSize ≤ first ∧ first ≤ length ∧ area = (first, length) := by
  simp only [Bool.or_eq_true, decide_eq_true_eq]
  split
  · refine iff_of_false (fun told => by cases told) ?_
    rintro ⟨low, high, _⟩
    omega
  · simp only [Report.result_pure, Except.ok.injEq]
    constructor
    · rintro rfl
      exact ⟨by omega, by omega, rfl⟩
    · rintro ⟨_, _, rfl⟩
      rfl

theorem extensionOffset_eq {extension : UInt16} (read : volume.le16? 52 = some extension) :
    extensionOffset volume = extension.toNat := Window.number_of_le16? read

theorem firstFile_plain {headerLength : UInt16} (read : volume.le16? 48 = some headerLength)
    (plain : extensionOffset volume = 0) :
    firstFile volume = alignUp headerLength.toNat 8 := by
  rw [firstFile, if_pos plain, Window.number_of_le16? read]

theorem firstFile_extended {extensionSize : UInt32}
    (read : volume.le32? (extensionOffset volume + 16) = some extensionSize)
    (extended : extensionOffset volume ≠ 0) :
    firstFile volume = alignUp (extensionOffset volume + extensionSize.toNat) 8 := by
  rw [firstFile, if_neg extended, Window.number_of_le32? read]

theorem sound_of_fileArea {area : Nat × Nat} (told : (fileArea volume).result = .ok area) :
    Sound volume ∧ area = (firstFile volume, declaredLength volume) := by
  rw [fileArea] at told
  split at told
  · cases told
  rename_i signed
  obtain ⟨length, lengthRead, told⟩ := Report.bind_ok_iff.mp told
  rw [Report.require_ok_iff] at lengthRead
  split at told
  · cases told
  rename_i inside
  obtain ⟨headerLength, headerRead, told⟩ := Report.bind_ok_iff.mp told
  obtain ⟨extension, extensionRead, told⟩ := Report.bind_ok_iff.mp told
  rw [Report.require_ok_iff] at headerRead extensionRead
  have signature := Window.number_of_le32? (by simpa using signed)
  have declared : declaredLength volume = length.toNat := Window.number_of_le64? lengthRead
  have offset := extensionOffset_eq extensionRead
  split at told
  · rename_i none
    have plain : extensionOffset volume = 0 := by rw [offset, none]; rfl
    obtain ⟨low, high, rfl⟩ := area_ok_iff.mp told
    rw [← firstFile_plain headerRead plain] at low high ⊢
    rw [← declared] at inside high ⊢
    exact ⟨⟨signature, by omega, fun extended => absurd plain extended, low, high⟩, rfl⟩
  · rename_i some
    have extended : extensionOffset volume ≠ 0 := by
      rw [offset]
      exact fun zero => some (UInt16.toNat_inj.mp zero)
    obtain ⟨extensionSize, sizeRead, told⟩ := Report.bind_ok_iff.mp told
    rw [Report.require_ok_iff, ← offset] at sizeRead
    obtain ⟨low, high, rfl⟩ := area_ok_iff.mp told
    rw [← offset, ← firstFile_extended sizeRead extended] at low high ⊢
    rw [← declared] at inside high ⊢
    exact ⟨⟨signature, by omega, fun _ => Window.le32?_bound sizeRead, low, high⟩, rfl⟩

theorem fileArea_sound (sound : Sound volume) :
    (fileArea volume).result = .ok (firstFile volume, declaredLength volume) := by
  obtain ⟨signed, inside, extended, low, high⟩ := sound
  have least : headerSize = 56 := rfl
  have signatureRead : volume.le32? 40 = some signature := by
    rw [Window.le32?_inside (by omega), signed, UInt32.ofNat_toNat]
  obtain ⟨length, lengthRead⟩ : ∃ length, volume.le64? 32 = some length :=
    ⟨_, Window.le64?_inside (by omega)⟩
  obtain ⟨headerLength, headerRead⟩ : ∃ headerLength, volume.le16? 48 = some headerLength :=
    ⟨_, Window.le16?_inside (by omega)⟩
  obtain ⟨extension, extensionRead⟩ : ∃ extension, volume.le16? 52 = some extension :=
    ⟨_, Window.le16?_inside (by omega)⟩
  have declared : declaredLength volume = length.toNat := Window.number_of_le64? lengthRead
  have offset := extensionOffset_eq extensionRead
  rw [declared] at inside high ⊢
  rw [fileArea, signatureRead, if_neg (by simp)]
  refine Report.bind_ok_iff.mpr ⟨length, Report.require_ok_iff.mpr lengthRead, ?_⟩
  rw [if_neg (by omega)]
  refine Report.bind_ok_iff.mpr ⟨headerLength, Report.require_ok_iff.mpr headerRead, ?_⟩
  refine Report.bind_ok_iff.mpr ⟨extension, Report.require_ok_iff.mpr extensionRead, ?_⟩
  by_cases none : extension = 0
  · have plain : extensionOffset volume = 0 := by rw [offset, none]; rfl
    rw [firstFile_plain headerRead plain] at low high ⊢
    rw [if_pos none]
    exact area_ok_iff.mpr ⟨low, high, rfl⟩
  · have behind : extensionOffset volume ≠ 0 := by
      rw [offset]
      exact fun zero => none (UInt16.toNat_inj.mp zero)
    obtain ⟨size, sizeRead⟩ : ∃ size, volume.le32? (extensionOffset volume + 16) = some size :=
      ⟨_, Window.le32?_inside (extended behind)⟩
    rw [firstFile_extended sizeRead behind, offset] at low high ⊢
    rw [if_neg none]
    refine Report.bind_ok_iff.mpr ⟨size, Report.require_ok_iff.mpr (offset ▸ sizeRead), ?_⟩
    exact area_ok_iff.mpr ⟨low, high, rfl⟩

/-! The image of a volume. -/

def CoreFile (volume : Window) (core : Nat) : Prop :=
  files.First volume (declaredLength volume) coreFileKind (firstFile volume) core

/-- What a search for the image of a volume comes to. -/
inductive Tells (volume : Window) : Except BootFailure ImageLocation → Prop where
  | unsound (unsound : ¬ Sound volume) : Tells volume (.error malformed)
  /-- No file up to the end of the volume is a core file. -/
  | coreless (sound : Sound volume)
      (lacks : files.Lacks volume (declaredLength volume) coreFileKind (firstFile volume)) :
      Tells volume (.error .imageNotFound)
  /-- In front of any core file, there is a file that does not fit. -/
  | broken (sound : Sound volume)
      (breaks : files.Breaks volume (declaredLength volume) coreFileKind (firstFile volume)) :
      Tells volume (.error malformed)
  | image {core place : Nat} (sound : Sound volume) (found : CoreFile volume core)
      (image : ImageAt volume core place) : Tells volume (.ok (sections.content volume place))
  | imageless {core : Nat} (sound : Sound volume) (found : CoreFile volume core)
      (imageless : Imageless volume core) : Tells volume (.error .imageNotFound)
  | imageBroken {core : Nat} (sound : Sound volume) (found : CoreFile volume core)
      (broken : ImageBroken volume core) : Tells volume (.error malformed)

theorem CoreFile.inside (found : CoreFile volume core) :
    core + files.size volume core ≤ declaredLength volume := found.2.1.inside

theorem CoreFile.room (found : CoreFile volume core) : core + 24 ≤ declaredLength volume :=
  found.2.1.room

theorem CoreFile.firstFile_le (found : CoreFile volume core) : firstFile volume ≤ core := by
  obtain ⟨⟨_, passes⟩, _⟩ := found
  exact passes.le

theorem locateImage_unsound (unsound : ¬ Sound volume) :
    (locateImage volume).result = .error malformed := by
  rw [locateImage, Report.result_bind]
  cases told : (fileArea volume).result with
  | error failure =>
      rw [fileArea_failsOnly volume failure told]
      rfl
  | ok area => exact absurd (sound_of_fileArea told).1 unsound

theorem locateImage_eq (sound : Sound volume) : (locateImage volume).result =
    (locateFrom volume (firstFile volume) (declaredLength volume)).result := by
  rw [locateImage, Report.result_bind, fileArea_sound sound]
  rfl

def located (volume : Window) : Except BootFailure (Option Nat) → Except BootFailure ImageLocation
  | .error failure => .error failure
  | .ok none => .error .imageNotFound
  | .ok (some place) => .ok (sections.content volume place)

theorem ImageSearched.tells {told : Except BootFailure (Option Nat)} (sound : Sound volume)
    (found : CoreFile volume core) (searched : ImageSearched volume core told) :
    Tells volume (located volume told) := by
  match told with
  | .error failure =>
      obtain ⟨rfl, broken⟩ := imageSearched_error_iff.mp searched
      exact .imageBroken sound found broken
  | .ok none => exact .imageless sound found (imageSearched_none_iff.mp searched)
  | .ok (some place) => exact .image sound found (imageSearched_some_iff.mp searched)

theorem locateImage_of_coreFile {told : Except BootFailure (Option Nat)} (sound : Sound volume)
    (found : CoreFile volume core) (searched : ImageSearched volume core told) :
    (locateImage volume).result = located volume told := by
  obtain ⟨first, reached, result⟩ := locateFrom_searched sound.inside (firstFile volume)
  have same : first = .ok (some core) := reached.unique found
  subst same
  obtain ⟨image, again, held⟩ := findImage_searched (Nat.le_trans found.inside sound.inside)
  obtain rfl := again.unique searched
  rw [locateImage_eq sound, result]
  simp only [held]
  match image with
  | .error failure => rfl
  | .ok none => rfl
  | .ok (some place) => rfl

theorem Tells.result {told : Except BootFailure ImageLocation} (tells : Tells volume told) :
    (locateImage volume).result = told := by
  cases tells with
  | unsound unsound => exact locateImage_unsound unsound
  | coreless sound lacks =>
      obtain ⟨first, reached, result⟩ := locateFrom_searched sound.inside (firstFile volume)
      have same : first = .ok none := reached.unique lacks
      subst same
      rw [locateImage_eq sound, result]
  | broken sound breaks =>
      obtain ⟨first, reached, result⟩ := locateFrom_searched sound.inside (firstFile volume)
      have same : first = .error malformed := reached.unique ⟨rfl, breaks⟩
      subst same
      rw [locateImage_eq sound, result]
  | image sound found image =>
      exact locateImage_of_coreFile sound found (imageSearched_some_iff.mpr image)
  | imageless sound found imageless =>
      exact locateImage_of_coreFile sound found (imageSearched_none_iff.mpr imageless)
  | imageBroken sound found broken =>
      exact locateImage_of_coreFile sound found (imageSearched_error_iff.mpr ⟨rfl, broken⟩)

theorem exists_tells (volume : Window) : ∃ told, Tells volume told := by
  by_cases sound : Sound volume
  · obtain ⟨first, reached, _⟩ := locateFrom_searched sound.inside (firstFile volume)
    match first with
    | .error failure => exact ⟨_, .broken sound reached.2⟩
    | .ok none => exact ⟨_, .coreless sound reached⟩
    | .ok (some core) =>
        have found : CoreFile volume core := reached
        obtain ⟨told, searched, _⟩ := findImage_searched (Nat.le_trans found.inside sound.inside)
        exact ⟨_, searched.tells sound found⟩
  · exact ⟨_, .unsound sound⟩

theorem locateImage_iff {told : Except BootFailure ImageLocation} :
    (locateImage volume).result = told ↔ Tells volume told := by
  constructor
  · rintro rfl
    obtain ⟨told, tells⟩ := exists_tells volume
    rw [tells.result]
    exact tells
  · exact Tells.result

/-! Bytes behind the declared length. -/

theorem ImageAt.fits (image : ImageAt volume core place) :
    sections.Fits volume (core + files.size volume core) place := by
  obtain first | ⟨_, first⟩ := image
  · exact first.2.1
  · exact first.2.1

theorem ImageAt.start_le (image : ImageAt volume core place) :
    core + files.header volume core ≤ place := by
  obtain ⟨⟨_, passes⟩, _⟩ | ⟨_, ⟨_, passes⟩, _⟩ := image
  · exact passes.le
  · exact passes.le

theorem ImageAt.kind_eq (image : ImageAt volume core place) :
    sections.kind volume place = pe32Kind ∨ sections.kind volume place = teKind ∧
      sections.Lacks volume (core + files.size volume core) pe32Kind
        (core + files.header volume core) := by
  obtain ⟨_, _, same⟩ | ⟨lacks, _, _, same⟩ := image
  · exact .inl same
  · exact .inr ⟨same, lacks⟩

section Agree

variable (agree : volume.Agree other (declaredLength volume))
include agree

theorem Sound.transfer (sound : Sound volume) (found : CoreFile volume core)
    (reaches : declaredLength volume ≤ other.size) : Sound other ∧
      firstFile other = firstFile volume ∧ declaredLength other = declaredLength volume := by
  have least : headerSize = 56 := rfl
  have low := sound.low
  have before := found.firstFile_le
  have room := found.room
  have number {field : Field} (inside : field.offset + field.width ≤ declaredLength volume) :
      other.number field = volume.number field := agree.number inside
  have length : declaredLength other = declaredLength volume := number (by dsimp only; omega)
  have offset : extensionOffset other = extensionOffset volume := number (by dsimp only; omega)
  -- The first file begins behind the size of the extended header and has a header of its own.
  have extended : extensionOffset volume ≠ 0 →
      extensionOffset volume + 20 ≤ declaredLength volume := by
    intro behind
    rw [firstFile, if_neg behind] at before
    have aligned := le_alignUp (extensionOffset volume +
      volume.number ⟨extensionOffset volume + 16, 4⟩) (show 0 < 8 by decide)
    omega
  have first : firstFile other = firstFile volume := by
    rw [firstFile, firstFile, offset]
    by_cases plain : extensionOffset volume = 0
    · rw [if_pos plain, if_pos plain, number (by dsimp only; omega)]
    · have inside := extended plain
      rw [if_neg plain, if_neg plain, number (by dsimp only; omega)]
  refine ⟨⟨?_, ?_, ?_, ?_, ?_⟩, first, length⟩
  · exact (number (by dsimp only; omega)).trans sound.signed
  · omega
  · rw [offset]
    exact fun behind => Nat.le_trans (extended behind) reaches
  · rw [first]
    exact low
  · rw [first, length]
    exact sound.high

theorem ImageAt.transfer (image : ImageAt volume core place) (found : CoreFile volume core) :
    ImageAt other core place := by
  have fits := found.2.1
  have nearer := agree.mono found.inside
  simp only [ImageAt, fits.header_eq agree, fits.size_eq agree]
  obtain first | ⟨lacks, first⟩ := image
  · exact .inl (first.transfer nearer)
  · exact .inr ⟨lacks.transfer nearer, first.transfer nearer⟩

theorem Tells.transfer {location : ImageLocation} (tells : Tells volume (.ok location))
    (reaches : declaredLength volume ≤ other.size) : Tells other (.ok location) := by
  cases tells with
  | @image core place sound found image =>
      obtain ⟨also, first, length⟩ := sound.transfer agree found reaches
      have fits := image.fits
      have nearer := agree.mono found.inside
      have same : sections.content other place = sections.content volume place := by
        simp only [Format.content, fits.header_eq nearer, fits.size_eq nearer,
          Format.kind_eq nearer fits.room]
      have refound : CoreFile other core := by
        rw [CoreFile, first, length]
        exact Format.First.transfer agree found
      rw [← same]
      exact .image also refound (image.transfer agree found)

end Agree

/-! An image that is found. -/

section Found

variable {location : ImageLocation} (tells : Tells volume (.ok location))
include tells

theorem Tells.inside :
    ∃ core, CoreFile volume core ∧ core + files.header volume core ≤ location.offset ∧
      location.offset + location.size ≤ core + files.size volume core ∧
      (location.kind = pe32Kind ∨ location.kind = teKind ∧
        sections.Lacks volume (core + files.size volume core) pe32Kind
          (core + files.header volume core)) := by
  cases tells with
  | @image core place sound found image =>
      have start := image.start_le
      have header := image.fits.header_le
      have inside := image.fits.inside
      refine ⟨core, found, ?_, ?_, image.kind_eq⟩
      · simp only [Format.content]
        omega
      · simp only [Format.content]
        omega

theorem Tells.sound : Sound volume := by
  cases tells with
  | image sound found image => exact sound

theorem Tells.le_declaredLength :
    location.offset + location.size ≤ declaredLength volume := by
  obtain ⟨core, found, _, inside, _⟩ := tells.inside
  exact Nat.le_trans inside found.inside

/-- A load that has located its image cannot miss it in the volume: if it stops in front of its first
request, the image cannot be laid out. -/
theorem Tells.sight :
    ∃ image, volume.slice? location.offset location.size = some image ∧
      ∀ address failure, (Image.sight volume address).result = .error failure →
        (Image.computeLayout image (address + UInt64.ofNat location.offset)).result =
          .error failure := by
  have whole := tells.sound.inside
  have inside := tells.le_declaredLength
  have cut := Window.slice?_eq_some_iff.mpr ⟨Nat.le_trans inside whole, rfl⟩
  refine ⟨_, cut, fun address failure failed => ?_⟩
  obtain lost | ⟨found, told, failed⟩ := Report.bind_error_iff.mp failed
  · rw [tells.result] at lost
    cases lost
  rw [tells.result] at told
  cases told
  rw [cut] at failed
  obtain outside | ⟨image, same, failed⟩ := Report.bind_error_iff.mp failed
  · cases outside
  cases same
  obtain unlaid | ⟨_, _, failed⟩ := Report.bind_error_iff.mp failed
  · exact unlaid
  · cases failed

end Found

/-- Looking for the image of a volume ends over a bounded number of files and sections: with the
PE32 section, or else the TE section, of the first core file in the declared length, with the
answer that there is none, or at bytes that are malformed. An image that is found lies in that file
and in the volume, and no byte behind the declared length has a part in it. -/
theorem image_of_any_bytes (volume : Window) :
    (∀ told, (locateImage volume).result = told ↔ Tells volume told) ∧
      (∀ (format : Format) stop kind start count last,
        format.Passes volume stop kind start count last →
          format.headerSize false * count ≤ stop - start) ∧
      ∀ location, (locateImage volume).result = .ok location →
        declaredLength volume ≤ volume.size ∧
        location.offset + location.size ≤ declaredLength volume ∧
        (∃ core, CoreFile volume core ∧ core + files.header volume core ≤ location.offset ∧
          location.offset + location.size ≤ core + files.size volume core ∧
          (location.kind = pe32Kind ∨ location.kind = teKind ∧
            sections.Lacks volume (core + files.size volume core) pe32Kind
              (core + files.header volume core))) ∧
        (∀ other, declaredLength volume ≤ other.size →
          volume.Agree other (declaredLength volume) →
            (locateImage other).result = .ok location) ∧
        ∃ image, volume.slice? location.offset location.size = some image ∧
          ∀ address failure, (Image.sight volume address).result = .error failure →
            (Image.computeLayout image (address + UInt64.ofNat location.offset)).result =
              .error failure := by
  refine ⟨fun told => locateImage_iff, fun format stop kind start count last passes =>
    passes.bounded, fun location found => ?_⟩
  have tells := locateImage_iff.mp found
  refine ⟨tells.sound.inside, tells.le_declaredLength, tells.inside,
    fun other reaches agree => ?_, tells.sight⟩
  exact (tells.transfer agree reaches).result

def smallVolume : List UInt8 :=
  List.replicate 32 0 ++ littleEndian 8 88 ++ littleEndian 4 signature.toNat ++
    List.replicate 4 0 ++ littleEndian 2 56 ++ List.replicate 6 0 ++
    List.replicate 18 0 ++ [coreFileKind, 0] ++ littleEndian 3 32 ++ [0] ++
    littleEndian 3 8 ++ [teKind, 1, 2, 3, 4]

theorem small_volume_image :
    (locateImage (Window.ofBytes smallVolume)).result = .ok ⟨84, 4, teKind⟩ ∧
      declaredLength (Window.ofBytes smallVolume) = 88 ∧
      (locateImage (Window.ofBytes (smallVolume ++ [5, 6, 7]))).result = .ok ⟨84, 4, teKind⟩ := by
  have found : (locateImage (Window.ofBytes smallVolume)).result = .ok ⟨84, 4, teKind⟩ :=
    eq_of_toOption (by decide +kernel) (by decide +kernel)
  have length : declaredLength (Window.ofBytes smallVolume) = 88 := by decide +kernel
  obtain ⟨_, _, _, further, _⟩ :=
    (image_of_any_bytes (Window.ofBytes smallVolume)).2.2 ⟨84, 4, teKind⟩ found
  rw [length] at further
  refine ⟨found, length, further _ (by decide) ?_⟩
  show ∀ offset < 88, _
  decide +kernel

end Volume

end PartitionBoot
