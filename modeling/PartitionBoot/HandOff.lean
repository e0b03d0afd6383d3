import PartitionBoot.Memory.Window
import PartitionBoot.Report

/-!
The hand-off blob with which the supervisor starts the partition: a header and a table of
descriptors, one of which gives the address of the manifest.
-/

namespace PartitionBoot

namespace HandOff

def signature : UInt32 := 0x0FFA

def headerSize : Nat := 32

def descriptorSize : Nat := 32

def kindField : Nat := 16

/-- A descriptor's type byte: bit 7 for implementation-defined types, the type itself below it. -/
def typeByte (implementationDefined : Bool) (kind : UInt8) : UInt8 :=
  (if implementationDefined then 0x80 else 0) ||| (kind &&& 0x7f)

def deviceTreeKind : UInt8 := 0

structure Header where
  signature : UInt32
  version : UInt32
  blobSize : UInt32
  descriptorSize : UInt32
  descriptorCount : UInt32
  descriptorOffset : UInt32
deriving DecidableEq

structure Descriptor where
  name : List UInt8
  kind : UInt8
  flags : UInt16
  size : UInt32
  content : UInt64
deriving DecidableEq

def isManifestKind (kind : UInt8) : Bool := kind = typeByte false deviceTreeKind

def Descriptor.isManifest (descriptor : Descriptor) : Bool := isManifestKind descriptor.kind

end HandOff

structure HandOff where
  header : HandOff.Header
  blob : Window

namespace HandOff

private def outside : BootFailure := .manifestMalformed .outOfBounds

def ofWindow (blob : Window) : Report BootFailure HandOff := do
  let found ← Report.require (blob.le32? 0) outside
  if found != signature then
    Report.failNoting (.handOffSignature found) (.manifestMissing (.handOffMagic found))
  else
    let field (offset : Nat) : Report BootFailure UInt32 :=
      Report.require (blob.le32? offset) outside
    let header : Header := {
      signature := found
      version := ← field 4
      blobSize := ← field 8
      descriptorSize := ← field 12
      descriptorCount := ← field 16
      descriptorOffset := ← field 20 }
    let size := header.blobSize.toNat
    if size < headerSize || blob.size < size then
      Report.failNoting (.handOffSize size blob.size) outside
    else pure { header, blob := { blob with size := size } }

/-- Reads the blob at an address. Only the signature is read before it matches, only the header
before its size is known. -/
def ofAddress (memory : Memory) (address : UInt64) : Report BootFailure HandOff := do
  if address = 0 then Report.failNoting .handOffNull (.manifestMissing .nullHandOff)
  else
    let head := memory.window address.toNat 4
    let found ← Report.require (head.le32? 0) outside
    if found != signature then ofWindow head
    else
      let header := memory.window address.toNat headerSize
      let size ← Report.require (header.le32? 8) outside
      ofWindow (memory.window address.toNat (max size.toNat headerSize))

def entry (handOff : HandOff) (index : Nat) : Report BootFailure Window := do
  let stride := handOff.header.descriptorSize.toNat
  if stride < descriptorSize then
    Report.failNoting (.descriptorTooSmall stride) (.manifestMalformed .badStructure)
  else
    let offset := index * stride + handOff.header.descriptorOffset.toNat
    match handOff.blob.slice? offset descriptorSize with
    | none => Report.failNoting (.descriptorOutOfBounds index) outside
    | some raw => pure raw

def descriptor (handOff : HandOff) (index : Nat) : Report BootFailure Descriptor := do
  let raw ← handOff.entry index
  let flags ← Report.require (raw.le16? 18) outside
  let size ← Report.require (raw.le32? 20) outside
  let content ← Report.require (raw.le64? 24) outside
  pure { name := raw.bytes.take 16, kind := raw.byte kindField, flags, size, content }

/-- Goes through `count` descriptors from an index on and keeps the index of the first that carries
a device tree. A descriptor inside the blob makes no notice. -/
def firstManifest (handOff : HandOff) (index : Nat) :
    Nat → Option Nat → Report BootFailure (Option Nat)
  | 0, found => pure found
  | count + 1, found =>
      let next := handOff.entry index
      match next.result with
      | .error failure => ⟨.error failure, next.notices⟩
      | .ok raw =>
          let found := found <|> if isManifestKind (raw.byte kindField) then some index else none
          handOff.firstManifest (index + 1) count found

def manifestAddress (handOff : HandOff) : Report BootFailure UInt64 := do
  match ← handOff.firstManifest 0 handOff.header.descriptorCount.toNat none with
  | some index =>
      let found ← handOff.descriptor index
      if found.content = 0 then missing
      else do
        Report.note (.manifestLocated found.content found.size)
        pure found.content
  | none => missing
where
  missing : Report BootFailure UInt64 :=
    Report.failNoting .manifestDescriptorMissing (.manifestMissing .noManifestDescriptor)

end HandOff

end PartitionBoot
