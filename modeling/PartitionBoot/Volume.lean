import PartitionBoot.Memory.Window
import PartitionBoot.Report

/-!
Firmware volumes: a header, then files, then an erased tail. Files are aligned to eight bytes and
hold sections aligned to four. The core image is a PE32 or TE section of the first core file.
-/

namespace PartitionBoot

namespace Volume

/-- `_FVH`, least significant byte first. -/
def signature : UInt32 := 0x4856465f

def headerSize : Nat := 56

def coreFileKind : UInt8 := 0x0f
def padFileKind : UInt8 := 0xf0

def pe32Kind : UInt8 := 0x10
def teKind : UInt8 := 0x12

/-- The file attribute that says a 64-bit size follows the standard header. -/
def largeFile : UInt8 := 0x01

def fileHeaderSize (large : Bool) : Nat := if large then 32 else 24

def sectionHeaderSize (large : Bool) : Nat := if large then 8 else 4

theorem fileHeaderSize_pos (large : Bool) : 0 < fileHeaderSize large := by
  cases large <;> decide

theorem sectionHeaderSize_pos (large : Bool) : 0 < sectionHeaderSize large := by
  cases large <;> decide

/-- The 24-bit size that says a 32-bit size follows the standard section header. -/
def sizeEscape : UInt32 := 0x00ffffff

def malformed : BootFailure := .imageMalformed .badVolume

def ofAddress (memory : Memory) (address : UInt64) : Report BootFailure Window := do
  let header := memory.window address.toNat headerSize
  if header.le32? 40 != some signature then
    Report.failNoting (.volumeMissing address) malformed
  else
    let length ← Report.require (header.le64? 32) malformed
    if length.toNat < headerSize then
      Report.fail malformed
    else
      pure (memory.window address.toNat length.toNat)

structure ImageLocation where
  offset : Nat
  size : Nat
  kind : UInt8
deriving DecidableEq

def fileArea (volume : Window) : Report BootFailure (Nat × Nat) := do
  if volume.le32? 40 != some signature then
    Report.failNoting .volumeSignature malformed
  else
    let length ← Report.require (volume.le64? 32) malformed
    if volume.size < length.toNat then
      Report.fail malformed
    else
      let headerLength ← Report.require (volume.le16? 48) malformed
      let extension ← Report.require (volume.le16? 52) malformed
      let headersEnd ← if extension = 0 then
          pure headerLength.toNat
        else do
          let extensionSize ← Report.require (volume.le32? (extension.toNat + 16)) malformed
          pure (extension.toNat + extensionSize.toNat)
      let first := alignUp headersEnd 8
      if first < headerSize || length.toNat < first then
        Report.fail malformed
      else
        pure (first, length.toNat)

structure Entry where
  kind : UInt8
  headerSize : Nat
  size : Nat
  header_pos : 0 < headerSize
  header_le : headerSize ≤ size

def fileAt (volume : Window) (offset stop : Nat) : Report BootFailure (Option Entry) := do
  match volume.slice? offset (fileHeaderSize false) with
  | none => pure none
  | some raw =>
      if stop < offset + fileHeaderSize false || raw.bytes.all (· = 0xff) then
        pure none
      else
        let large := raw.byte 19 &&& largeFile != 0
        let headerSize := fileHeaderSize large
        let size ← if large then do
            let size ← Report.require (volume.le64? (offset + fileHeaderSize false)) malformed
            pure size.toNat
          else do
            let size ← Report.require (raw.le24? 20) malformed
            pure size.toNat
        if fits : headerSize ≤ size ∧ offset + size ≤ stop then
          let kind := raw.byte 18
          if kind = padFileKind then
            Report.note (.padFile offset)
          pure (some ⟨kind, headerSize, size, fileHeaderSize_pos large, fits.1⟩)
        else
          Report.failNoting (.corruptFile offset size) malformed

def sectionAt (volume : Window) (offset stop : Nat) : Report BootFailure Entry := do
  let short ← Report.require (volume.le24? offset) malformed
  let large : Bool := short = sizeEscape
  let headerSize := sectionHeaderSize large
  let size ← if large then do
      let size ← Report.require (volume.le32? (offset + sectionHeaderSize false)) malformed
      pure size.toNat
    else
      pure short.toNat
  if fits : headerSize ≤ size ∧ offset + size ≤ stop then
    pure ⟨volume.byte (offset + 3), headerSize, size, sectionHeaderSize_pos large, fits.1⟩
  else
    Report.failNoting (.corruptSection offset size) malformed

def findSection (volume : Window) (wanted : UInt8) (offset stop : Nat) :
    Report BootFailure (Option ImageLocation) := do
  if _ : offset + sectionHeaderSize false ≤ stop then
    let entry ← sectionAt volume offset stop
    if entry.kind = wanted then
      pure (some ⟨offset + entry.headerSize, entry.size - entry.headerSize, entry.kind⟩)
    else
      findSection volume wanted (alignUp (offset + entry.size) 4) stop
  else
    pure none
termination_by stop - offset
decreasing_by
  have positive := entry.header_pos
  have within := entry.header_le
  have aligned := le_alignUp (offset + entry.size) (show 0 < 4 by decide)
  have header : sectionHeaderSize false = 4 := rfl
  omega

/-- The image in the sections `[start, stop)` of a core file: the first PE32 section, or the first
TE section where there is no PE32 section. -/
def findImage (volume : Window) (start stop : Nat) :
    Report BootFailure (Option ImageLocation) := do
  match ← findSection volume pe32Kind start stop with
  | some found => pure (some found)
  | none => findSection volume teKind start stop

def locateFrom (volume : Window) (offset stop : Nat) : Report BootFailure ImageLocation := do
  if _ : offset < stop then
    match ← fileAt volume offset stop with
    | none => missing
    | some file =>
        if file.kind = coreFileKind then do
          Report.note (.coreFile offset file.size)
          match ← findImage volume (offset + file.headerSize) (offset + file.size) with
          | some found =>
              Report.note (.coreImage found.offset found.size found.kind)
              pure found
          | none => Report.failNoting .coreFileWithoutImage .imageNotFound
        else
          locateFrom volume (alignUp (offset + file.size) 8) stop
  else
    missing
termination_by stop - offset
decreasing_by
  have positive := file.header_pos
  have within := file.header_le
  have aligned := le_alignUp (offset + file.size) (show 0 < 8 by decide)
  omega
where
  missing : Report BootFailure ImageLocation :=
    Report.failNoting .coreFileMissing .imageNotFound

def locateImage (volume : Window) : Report BootFailure ImageLocation := do
  let (first, stop) ← fileArea volume
  locateFrom volume first stop

end Volume

end PartitionBoot
