import PartitionBoot.Proofs.Window
import PartitionBoot.Volume

/-!
Volumes and how they are laid out. A file or section is what it holds together with the choices of
its layout: its header, and the bytes that fill the gaps in front of aligned places. Where files
and sections stand is told by the same recursion that lays them out.
-/

namespace PartitionBoot

namespace Volume

def gap (fill : Nat → UInt8) (place alignment : Nat) : List UInt8 :=
  (List.range (alignUp place alignment - place)).map fun index => fill (place + index)

@[simp] theorem length_gap (fill : Nat → UInt8) (place alignment : Nat) :
    (gap fill place alignment).length = alignUp place alignment - place := by
  simp [gap]

/-- A section of a file. A large one has the escape for a size and its size behind it. -/
structure FlatSection where
  kind : UInt8
  large : Bool
  data : List UInt8
deriving DecidableEq

namespace FlatSection

def size (leaf : FlatSection) : Nat := sectionHeaderSize leaf.large + leaf.data.length

def header (leaf : FlatSection) : List UInt8 :=
  if leaf.large then
    littleEndian 3 sizeEscape.toNat ++ ([leaf.kind] ++ littleEndian 4 leaf.size)
  else littleEndian 3 leaf.size ++ [leaf.kind]

def bytes (leaf : FlatSection) : List UInt8 := leaf.header ++ leaf.data

def Fits (leaf : FlatSection) : Prop :=
  if leaf.large then leaf.size < UInt32.size else leaf.size < sizeEscape.toNat

instance (leaf : FlatSection) : Decidable leaf.Fits := inferInstanceAs (Decidable (ite ..))

@[simp] theorem length_header (leaf : FlatSection) :
    leaf.header.length = sectionHeaderSize leaf.large := by
  rw [header, sectionHeaderSize]
  split <;> simp

@[simp] theorem length_bytes (leaf : FlatSection) : leaf.bytes.length = leaf.size := by
  rw [bytes, List.length_append, length_header, size]

end FlatSection

def sectionBytes (fill : Nat → UInt8) : Nat → List FlatSection → List UInt8
  | _, [] => []
  | place, leaf :: rest =>
      gap fill place 4 ++ (leaf.bytes ++ sectionBytes fill (alignUp place 4 + leaf.size) rest)

structure PlacedSection where
  start : Nat
  leaf : FlatSection
deriving DecidableEq

def PlacedSection.location (placed : PlacedSection) : ImageLocation :=
  ⟨placed.start + sectionHeaderSize placed.leaf.large, placed.leaf.data.length, placed.leaf.kind⟩

def placeSections : Nat → List FlatSection → List PlacedSection
  | _, [] => []
  | place, leaf :: rest =>
      ⟨alignUp place 4, leaf⟩ :: placeSections (alignUp place 4 + leaf.size) rest

/-- Of the sections of a file the first PE32 section, or the first TE section where there is no PE32
section. -/
def imageOf (placed : List PlacedSection) : Option PlacedSection :=
  (placed.find? fun found => found.leaf.kind = pe32Kind).or
    (placed.find? fun found => found.leaf.kind = teKind)

/-- A file. Its header names it, and of the attributes one says whether the header is a large one,
which has the size behind it. -/
structure FlatFile where
  lead : List UInt8
  kind : UInt8
  attributes : UInt8
  shortSize : Nat
  state : UInt8
  sections : List FlatSection
  fill : Nat → UInt8

namespace FlatFile

def large (file : FlatFile) : Bool := file.attributes &&& largeFile != 0

def body (file : FlatFile) : List UInt8 := sectionBytes file.fill 0 file.sections

def size (file : FlatFile) : Nat := fileHeaderSize file.large + file.body.length

def frontHeader (file : FlatFile) : List UInt8 :=
  file.lead ++ ([file.kind, file.attributes] ++
    (littleEndian 3 (if file.large then file.shortSize else file.size) ++ [file.state]))

def header (file : FlatFile) : List UInt8 :=
  file.frontHeader ++ if file.large then littleEndian 8 file.size else []

def bytes (file : FlatFile) : List UInt8 := file.header ++ file.body

structure Fits (file : FlatFile) : Prop where
  lead : file.lead.length = 18
  size : if file.large then file.size < UInt64.size else file.size < Nat.pow 256 3
  written : file.frontHeader ≠ List.replicate 24 0xff
  sections : ∀ leaf ∈ file.sections, leaf.Fits

end FlatFile

def fileBytes (fill : Nat → UInt8) : Nat → List FlatFile → List UInt8
  | _, [] => []
  | place, file :: rest =>
      gap fill place 8 ++ (file.bytes ++ fileBytes fill (alignUp place 8 + file.size) rest)

structure PlacedFile where
  start : Nat
  file : FlatFile

def PlacedFile.sections (placed : PlacedFile) : List PlacedSection :=
  placeSections (placed.start + fileHeaderSize placed.file.large) placed.file.sections

def placeFiles : Nat → List FlatFile → List PlacedFile
  | _, [] => []
  | place, file :: rest =>
      ⟨alignUp place 8, file⟩ :: placeFiles (alignUp place 8 + file.size) rest

/-- The header that may follow the block map: some bytes in front of it, its first 16 bytes and what
it holds behind its size. -/
structure Extension where
  gap : List UInt8
  lead : List UInt8
  rest : List UInt8

namespace Extension

def size (extension : Extension) : Nat := 20 + extension.rest.length

def bytes (extension : Extension) : List UInt8 :=
  extension.gap ++ (extension.lead ++ (littleEndian 4 extension.size ++ extension.rest))

end Extension

/-- A volume. What is not read of its header may hold any bytes. -/
structure FlatVolume where
  lead : List UInt8
  attributes : List UInt8
  checksum : List UInt8
  revision : List UInt8
  blockMap : List UInt8
  extension : Option Extension
  files : List FlatFile
  fill : Nat → UInt8
  erased : Nat

namespace FlatVolume

def headerLength (volume : FlatVolume) : Nat := 56 + volume.blockMap.length

def extensionOffset (volume : FlatVolume) : Nat :=
  match volume.extension with
  | none => 0
  | some extension => volume.headerLength + extension.gap.length

def extensionBytes (volume : FlatVolume) : List UInt8 :=
  match volume.extension with
  | none => []
  | some extension => extension.bytes

def headersEnd (volume : FlatVolume) : Nat := volume.headerLength + volume.extensionBytes.length

def filesEnd (volume : FlatVolume) : Nat :=
  volume.headersEnd + (fileBytes volume.fill volume.headersEnd volume.files).length

def length (volume : FlatVolume) : Nat := alignUp (volume.filesEnd + volume.erased) 8

def header (volume : FlatVolume) : List UInt8 :=
  volume.lead ++ (littleEndian 8 volume.length ++ (littleEndian 4 signature.toNat ++
    (volume.attributes ++ (littleEndian 2 volume.headerLength ++ (volume.checksum ++
      (littleEndian 2 volume.extensionOffset ++ (volume.revision ++ volume.blockMap)))))))

def bytes (volume : FlatVolume) : List UInt8 :=
  volume.header ++ (volume.extensionBytes ++
    (fileBytes volume.fill volume.headersEnd volume.files ++
      List.replicate (volume.length - volume.filesEnd) 0xff))

structure Fits (volume : FlatVolume) : Prop where
  lead : volume.lead.length = 32
  attributes : volume.attributes.length = 4
  checksum : volume.checksum.length = 2
  revision : volume.revision.length = 2
  headerLength : volume.headerLength < UInt16.size
  extensionOffset : volume.extensionOffset < UInt16.size
  extension : ∀ extension ∈ volume.extension,
    extension.lead.length = 16 ∧ extension.size < UInt32.size
  length : volume.length < UInt64.size
  files : ∀ file ∈ volume.files, file.Fits

def placedFiles (volume : FlatVolume) : List PlacedFile :=
  placeFiles volume.headersEnd volume.files

def image? (volume : FlatVolume) : Option PlacedSection :=
  (volume.placedFiles.find? fun placed => placed.file.kind = coreFileKind).bind fun placed =>
    imageOf placed.sections

end FlatVolume

end Volume

end PartitionBoot
