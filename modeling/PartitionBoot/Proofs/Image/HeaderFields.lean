import PartitionBoot.Image.Layout
import PartitionBoot.Proofs.Image.FixupTable
import PartitionBoot.Proofs.Outcome

/-!
The fields of its headers that an image is read from. Two images that agree in these fields are
read alike, save for the address that they are linked for.
-/

namespace PartitionBoot

namespace ImageContext

def placed (context : ImageContext) (base address : UInt64) : ImageContext :=
  { context with imageBase := base, imageAddress := address }

def relinked (context : ImageContext) (base : UInt64) : ImageContext :=
  context.placed base (base + context.headerAdjust)

end ImageContext

namespace Image

def Parsed.relinked (parsed : Parsed) (image : Window) : Parsed :=
  let base := UInt64.ofNat (image.number (Fixup.baseField parsed.context))
  { parsed with context := parsed.context.relinked base }

def teFields : List Field := [⟨0, 2⟩, ⟨4, 1⟩, ⟨6, 2⟩, ⟨8, 4⟩, ⟨24, 4⟩, ⟨28, 4⟩]

def peFields (headers directory : Nat) : List Field :=
  [⟨0, 2⟩, ⟨peHeadersField, 4⟩, ⟨headers, 4⟩, ⟨headers + 6, 2⟩, ⟨headers + 20, 2⟩,
    ⟨headers + 22, 2⟩, ⟨headers + 24, 2⟩, ⟨headers + 24 + 16, 4⟩, ⟨directory, 4⟩,
    ⟨directory + 4, 4⟩]

def directoryOffset (image : Window) (optional : Nat) : Nat :=
  if image.number ⟨optional, 2⟩ = pe32PlusMagic.toNat then optional + 152 else optional + 136

/-- The fields that are read to learn what an image is, save for the address it is linked for. -/
def headerFields (image : Window) : List Field :=
  let headers := image.number ⟨peHeadersField, 4⟩
  if image.number ⟨0, 2⟩ = teSignature.toNat then teFields
  else peFields headers (directoryOffset image (headers + 24))

structure SameHeaders (image other : Window) : Prop where
  size : other.size = image.size
  fields : ∀ field ∈ headerFields image, ∀ offset, field.span.Covers offset →
    other.byte offset = image.byte offset

variable {image other : Window} {offset : Nat}

namespace SameHeaders

theorem number_eq {field : Field} (same : SameHeaders image other)
    (member : field ∈ headerFields image) : other.number field = image.number field :=
  Window.number_congr (same.fields field member)

theorem le16?_eq (same : SameHeaders image other) (member : ⟨offset, 2⟩ ∈ headerFields image) :
    other.le16? offset = image.le16? offset :=
  Window.le16?_congr same.size (same.number_eq member)

theorem le32?_eq (same : SameHeaders image other) (member : ⟨offset, 4⟩ ∈ headerFields image) :
    other.le32? offset = image.le32? offset :=
  Window.le32?_congr same.size (same.number_eq member)

end SameHeaders

variable {parsed : Parsed}

theorem headerFields_te (te : image.number ⟨0, 2⟩ = teSignature.toNat) :
    headerFields image = teFields := by
  rw [headerFields, if_pos te]

theorem headerFields_pe (pe : image.number ⟨0, 2⟩ ≠ teSignature.toNat) {found : UInt32}
    (read : image.le32? peHeadersField = some found) : headerFields image =
      peFields found.toNat (directoryOffset image (found.toNat + 24)) := by
  simp only [headerFields, if_neg pe, Window.number_of_le32? read]

theorem parseTe_relinked (same : SameHeaders image other)
    (te : image.number ⟨0, 2⟩ = teSignature.toNat) (read : (parseTe image).result = .ok parsed) :
    (parseTe other).result = .ok (parsed.relinked other) := by
  have fields := headerFields_te te
  simp only [teFields] at fields
  have sections := same.fields ⟨4, 1⟩ (by simp [fields]) 4 (by decide)
  have front {offset : Nat} {value : UInt32} (member : ⟨offset, 4⟩ ∈ headerFields image)
      (read : { image with base := image.base + 0, size := teHeaderSize }.le32? offset =
        some value) :
      { other with base := other.base + 0, size := teHeaderSize }.le32? offset = some value := by
    rw [← read]
    exact Window.le32?_congr rfl (same.number_eq member)
  simp only [parseTe, Report.bind_ok_iff, Report.require_ok_iff] at read ⊢
  obtain ⟨header, cut, stripped, strippedRead, read⟩ := read
  obtain ⟨room, rfl⟩ := Window.slice?_eq_some_iff.mp cut
  refine ⟨_, Window.slice?_eq_some_iff.mpr ⟨by rwa [same.size], rfl⟩, stripped, ?_, ?_⟩
  · rw [← strippedRead]
    exact Window.le16?_congr rfl (same.number_eq (by simp [fields]))
  split at read
  · cases read
  · rename_i large
    rw [if_neg large]
    simp only [Report.bind_ok_iff, Report.require_ok_iff, Report.result_pure,
      Except.ok.injEq] at read ⊢
    obtain ⟨base, _, entry, entryRead, rva, rvaRead, size, sizeRead, rfl⟩ := read
    refine ⟨UInt64.ofNat (other.number ⟨16, 8⟩), Window.le64?_eq ..,
      entry, front (by simp [fields]) entryRead, rva, front (by simp [fields]) rvaRead,
      size, front (by simp [fields]) sizeRead, ?_⟩
    simp only [Window.byte] at sections
    simp only [Parsed.relinked, ImageContext.relinked, ImageContext.placed, Fixup.baseField,
      Fixup.baseWidth, Window.byte, Nat.add_zero, sections]

theorem directory_congr (same : SameHeaders image other)
    (rva : ⟨offset, 4⟩ ∈ headerFields image) (size : ⟨offset + 4, 4⟩ ∈ headerFields image) :
    parseOptional.directory other offset = parseOptional.directory image offset := by
  rw [parseOptional.directory, parseOptional.directory, same.le32?_eq rva, same.le32?_eq size]

theorem parseOptional_relinked (same : SameHeaders image other) {headers : Nat}
    (fields : headerFields image = peFields headers (directoryOffset image (headers + 24)))
    {format : ImageFormat} {base : UInt64} {baseOffset : Nat} {table : Directory}
    (read : (parseOptional image (headers + 24)).result =
      .ok (format, base, baseOffset, table)) :
    (parseOptional other (headers + 24)).result = .ok (format,
      UInt64.ofNat (other.number ⟨baseOffset, Fixup.baseWidth format⟩), baseOffset, table) := by
  simp only [parseOptional, Report.bind_ok_iff, Report.require_ok_iff] at read ⊢
  obtain ⟨magic, magicRead, read⟩ := read
  refine ⟨magic, (same.le16?_eq (by simp [fields, peFields])).trans magicRead, ?_⟩
  rw [directoryOffset, Window.number_of_le16? magicRead] at fields
  split at read
  · rename_i plus
    rw [if_pos (congrArg UInt16.toNat plus)] at fields
    rw [if_pos plus]
    simp only [Report.bind_ok_iff, Report.require_ok_iff, Report.result_pure,
      Except.ok.injEq, Prod.mk.injEq] at read ⊢
    obtain ⟨_, baseRead, _, tableRead, rfl, rfl, rfl, rfl⟩ := read
    have room : headers + 24 + 24 + 8 ≤ other.size := by
      rw [same.size]
      exact Window.le64?_bound baseRead
    refine ⟨_, by rw [Window.le64?_eq, if_pos room]; rfl, _, ?_, rfl, rfl, rfl, rfl⟩
    rw [directory_congr same (by simp [fields, peFields]) (by simp [fields, peFields])]
    exact tableRead
  · rename_i small
    rw [if_neg fun same => small (UInt16.toNat_inj.mp same)] at fields
    rw [if_neg small]
    split at read
    · rename_i plain
      rw [if_pos plain]
      simp only [Report.bind_ok_iff, Report.require_ok_iff, Report.result_pure,
        Except.ok.injEq, Prod.mk.injEq] at read ⊢
      obtain ⟨_, baseRead, _, tableRead, rfl, rfl, rfl, rfl⟩ := read
      have room : headers + 24 + 28 + 4 ≤ other.size := by
        rw [same.size]
        exact Window.le32?_bound baseRead
      refine ⟨_, by rw [Window.le32?_eq, if_pos room], _, ?_, rfl, ?_, rfl, rfl⟩
      · rw [directory_congr same (by simp [fields, peFields]) (by simp [fields, peFields])]
        exact tableRead
      · apply UInt64.toNat.inj
        have bound : other.number ⟨headers + 24 + 28, 4⟩ < 2 ^ 32 := other.number_lt _
        rw [UInt32.toNat_toUInt64, UInt32.toNat_ofNat', UInt64.toNat_ofNat', Fixup.baseWidth]
        omega
    · cases read

theorem parsePe_relinked (same : SameHeaders image other)
    (pe : image.number ⟨0, 2⟩ ≠ teSignature.toNat) (read : (parsePe image).result = .ok parsed) :
    (parsePe other).result = .ok (parsed.relinked other) := by
  simp only [parsePe, Report.bind_ok_iff, Report.require_ok_iff] at read ⊢
  obtain ⟨found, foundRead, read⟩ := read
  have fields := headerFields_pe pe foundRead
  have held {offset width : Nat} (member : ⟨offset, width⟩ ∈ peFields found.toNat
      (directoryOffset image (found.toNat + 24))) : ⟨offset, width⟩ ∈ headerFields image := by
    rwa [fields]
  refine ⟨found, (same.le32?_eq (held (by simp [peFields]))).trans foundRead, ?_⟩
  rw [same.le32?_eq (held (by simp [peFields]))]
  split at read
  · cases read
  · rename_i signature
    rw [if_neg signature]
    simp only [Report.bind_ok_iff, Report.require_ok_iff] at read ⊢
    obtain ⟨count, countRead, optionalSize, optionalRead, flags, flagsRead,
      ⟨format, base, offset, table⟩, optional, entry, entryRead, read⟩ := read
    refine ⟨count, (same.le16?_eq (held (by simp [peFields]))).trans countRead,
      optionalSize, (same.le16?_eq (held (by simp [peFields]))).trans optionalRead,
      flags, (same.le16?_eq (held (by simp [peFields]))).trans flagsRead,
      _, parseOptional_relinked same fields optional,
      entry, (same.le32?_eq (held (by simp [peFields]))).trans entryRead, ?_⟩
    split at read
    · cases read
    · rename_i room
      cases read
      rw [if_neg room]
      simp [Parsed.relinked, ImageContext.relinked, ImageContext.placed, Fixup.baseField]

theorem parseHeaders_relinked (same : SameHeaders image other)
    (read : (parseHeaders image).result = .ok parsed) :
    (parseHeaders other).result = .ok (parsed.relinked other) := by
  simp only [parseHeaders, Report.bind_ok_iff, Report.require_ok_iff] at read ⊢
  obtain ⟨signature, signatureRead, read⟩ := read
  have first := Window.number_of_le16? signatureRead
  have held : ⟨0, 2⟩ ∈ headerFields image := by
    simp only [headerFields]
    split <;> simp [teFields, peFields]
  refine ⟨signature, (same.le16?_eq held).trans signatureRead, ?_⟩
  split at read
  · rename_i te
    rw [if_pos te]
    exact parseTe_relinked same (by rw [first, te]) read
  · rename_i notTe
    rw [if_neg notTe]
    split at read
    · rename_i pe
      rw [if_pos pe]
      exact parsePe_relinked same (by rw [first, pe]; decide) read
    · cases read

variable {address : UInt64} {context : ImageContext} {layout : ImageLayout}

theorem computeLayout_ok_iff : (computeLayout image address).result = .ok (context, layout) ↔
    ∃ parsed, (parseHeaders image).result = .ok parsed ∧
      parsed.sectionTable.toNat + parsed.sectionCount.toNat * sectionEntrySize ≤ image.size ∧
      context = parsed.context ∧
      layout = ⟨context.imageBase, context.imageBase + (address - context.imageAddress),
        parsed.sectionTable, parsed.sectionCount⟩ := by
  simp only [computeLayout, Report.bind_ok_iff]
  refine exists_congr fun parsed => and_congr_right fun _ => ?_
  split
  · rename_i outside
    simp only [Report.result_failNoting, reduceCtorEq, false_iff, not_and]
    exact fun inside => absurd outside (Nat.not_lt.mpr inside)
  · rename_i inside
    simp only [Report.result_bind, Report.result_note, Except.bind, Report.result_pure,
      Except.ok.injEq, Prod.mk.injEq, Nat.not_lt.mp inside, true_and]
    constructor
    · rintro ⟨rfl, rfl⟩
      exact ⟨rfl, rfl⟩
    · rintro ⟨rfl, rfl⟩
      exact ⟨rfl, rfl⟩

theorem computeLayout_relinked (same : SameHeaders image other)
    (laid : (computeLayout image address).result = .ok (context, layout)) (elsewhere : UInt64) :
    ∃ layout, (computeLayout other elsewhere).result =
      .ok (context.relinked (UInt64.ofNat (other.number (Fixup.baseField context))), layout) := by
  obtain ⟨parsed, read, inside, rfl, _⟩ := computeLayout_ok_iff.mp laid
  refine ⟨_, computeLayout_ok_iff.mpr ⟨_, parseHeaders_relinked same read, ?_, rfl, rfl⟩⟩
  rw [same.size]
  exact inside

theorem SameHeaders.refl (image : Window) : SameHeaders image image := ⟨rfl, fun _ _ _ _ => rfl⟩

theorem computeLayout_base (laid : (computeLayout image address).result = .ok (context, layout)) :
    context = context.relinked (UInt64.ofNat (image.number (Fixup.baseField context))) := by
  obtain ⟨parsed, read, _, rfl, _⟩ := computeLayout_ok_iff.mp laid
  have again := parseHeaders_relinked (SameHeaders.refl image) read
  rw [read, Except.ok.injEq] at again
  exact congrArg Parsed.context again

theorem parsePe_headerAdjust (read : (parsePe image).result = .ok parsed) :
    parsed.context.headerAdjust = 0 := by
  simp only [parsePe, Report.bind_ok_iff] at read
  obtain ⟨found, _, read⟩ := read
  split at read
  · cases read
  · simp only [Report.bind_ok_iff] at read
    obtain ⟨_, _, _, _, _, _, _, _, _, _, read⟩ := read
    split at read <;> cases read
    rfl

theorem parseTe_format (read : (parseTe image).result = .ok parsed) :
    parsed.context.format = .te := by
  simp only [parseTe, Report.bind_ok_iff] at read
  obtain ⟨_, _, _, _, read⟩ := read
  split at read
  · cases read
  · simp only [Report.bind_ok_iff] at read
    obtain ⟨_, _, _, _, _, _, _, _, read⟩ := read
    cases read
    rfl

theorem computeLayout_headerAdjust
    (laid : (computeLayout image address).result = .ok (context, layout))
    (full : context.format ≠ .te) : context.headerAdjust = 0 := by
  obtain ⟨parsed, read, _, rfl, _⟩ := computeLayout_ok_iff.mp laid
  simp only [parseHeaders, Report.bind_ok_iff] at read
  obtain ⟨_, _, read⟩ := read
  split at read
  · exact absurd (parseTe_format read) full
  · split at read
    · exact parsePe_headerAdjust read
    · cases read

end Image

end PartitionBoot
