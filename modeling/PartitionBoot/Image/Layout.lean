import PartitionBoot.Image.Header
import PartitionBoot.Memory.Window
import PartitionBoot.Report

/-!
Reading the headers of an image. A stripped (TE) image starts with a header of 40 bytes; a PE32 or
PE32+ image starts with a stub that points at its headers.
-/

namespace PartitionBoot

namespace Image

/-- `MZ`, least significant byte first. -/
def stubSignature : UInt16 := 0x5A4D

/-- `PE` and two zero bytes, least significant byte first. -/
def peSignature : UInt32 := 0x00004550

/-- `VZ`, least significant byte first. -/
def teSignature : UInt16 := 0x5A56

def pe32Magic : UInt16 := 0x10B
def pe32PlusMagic : UInt16 := 0x20B

def teHeaderSize : Nat := 40

def sectionEntrySize : Nat := 40

def peHeadersField : Nat := 0x3C

def truncated : BootFailure := .imageMalformed .truncated

def badSignature : BootFailure := .imageMalformed .badSignature

structure Parsed where
  context : ImageContext
  sectionTable : UInt32
  sectionCount : UInt16

def parseTe (image : Window) : Report BootFailure Parsed := do
  let header ← Report.require (image.slice? 0 teHeaderSize) truncated
  let strippedSize ← Report.require (header.le16? 6) truncated
  if strippedSize.toNat < teHeaderSize then
    Report.failNoting (.strippedSize strippedSize.toNat) truncated
  else
    let headerAdjust := strippedSize.toUInt64 - UInt64.ofNat teHeaderSize
    let imageBase ← Report.require (header.le64? 16) truncated
    let entryPoint ← Report.require (header.le32? 8) truncated
    let rva ← Report.require (header.le32? 24) truncated
    let size ← Report.require (header.le32? 28) truncated
    pure {
      context := {
        imageAddress := imageBase + headerAdjust
        imageBase
        format := .te
        headerAdjust
        imageBaseOffset := 16
        entryPoint
        relocations := ⟨rva, size⟩
        relocationsStripped := false }
      sectionTable := UInt32.ofNat teHeaderSize
      sectionCount := (header.byte 4).toUInt16 }

def parseOptional (image : Window) (optional : Nat) :
    Report BootFailure (ImageFormat × UInt64 × Nat × Directory) := do
  let magic ← Report.require (image.le16? optional) truncated
  if magic = pe32PlusMagic then
    let base ← Report.require (image.le64? (optional + 24)) truncated
    let relocations ← directory (optional + 152)
    pure (.pe32Plus, base, optional + 24, relocations)
  else if magic = pe32Magic then
    let base ← Report.require (image.le32? (optional + 28)) truncated
    let relocations ← directory (optional + 136)
    pure (.pe32, base.toUInt64, optional + 28, relocations)
  else
    Report.failNoting (.optionalHeaderMagic magic) badSignature
where
  directory (offset : Nat) : Report BootFailure Directory := do
    let rva ← Report.require (image.le32? offset) truncated
    let size ← Report.require (image.le32? (offset + 4)) truncated
    pure ⟨rva, size⟩

def parsePe (image : Window) : Report BootFailure Parsed := do
  let found ← Report.require (image.le32? peHeadersField) truncated
  let headers := found.toNat
  if image.le32? headers != some peSignature then
    Report.failNoting (.peSignatureMissing headers) badSignature
  else
    let sectionCount ← Report.require (image.le16? (headers + 6)) truncated
    let optionalSize ← Report.require (image.le16? (headers + 20)) truncated
    let characteristics ← Report.require (image.le16? (headers + 22)) truncated
    let optional := headers + 24
    let (format, imageBase, imageBaseOffset, relocations) ← parseOptional image optional
    let entryPoint ← Report.require (image.le32? (optional + 16)) truncated
    let sectionTable := optional + optionalSize.toNat
    if UInt32.size ≤ sectionTable then
      Report.fail truncated
    else
      pure {
        context := {
          imageAddress := imageBase
          imageBase
          format
          headerAdjust := 0
          imageBaseOffset
          entryPoint
          relocations
          relocationsStripped := characteristics &&& 1 != 0 }
        sectionTable := UInt32.ofNat sectionTable
        sectionCount }

def parseHeaders (image : Window) : Report BootFailure Parsed := do
  let signature ← Report.require (image.le16? 0) truncated
  if signature = teSignature then
    parseTe image
  else if signature = stubSignature then
    parsePe image
  else
    Report.failNoting (.imageSignature signature) badSignature

def computeLayout (image : Window) (dataAddress : UInt64) :
    Report BootFailure (ImageContext × ImageLayout) := do
  let parsed ← parseHeaders image
  let context := parsed.context
  let tableEnd := parsed.sectionTable.toNat + parsed.sectionCount.toNat * sectionEntrySize
  if image.size < tableEnd then
    Report.failNoting (.sectionTableOutside parsed.sectionCount parsed.sectionTable) truncated
  else
    let layout : ImageLayout := {
      declaredBase := context.imageBase
      trueBase := context.imageBase + (dataAddress - context.imageAddress)
      sectionTable := parsed.sectionTable
      sectionCount := parsed.sectionCount }
    Report.note (.imageLayout context.format layout.declaredBase layout.trueBase
      layout.sectionCount)
    pure (context, layout)

def sectionEntry (image : Window) (layout : ImageLayout) (index : Nat) :
    Report BootFailure ImageSection := do
  let offset := layout.sectionTable.toNat + index * sectionEntrySize
  let raw ← Report.require (image.slice? offset sectionEntrySize) truncated
  let size ← Report.require (raw.le32? 8) truncated
  let rva ← Report.require (raw.le32? 12) truncated
  let flags ← Report.require (raw.le32? 36) truncated
  pure { name := raw.bytes.take 8, size, rva, flags }

end Image

end PartitionBoot
