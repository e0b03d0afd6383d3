import PartitionBoot.Image.Header
import PartitionBoot.Supervisor.AttributeWord
import PartitionBoot.Supervisor.Version

/-!
What the boot reports while it runs. A notice is the thing reported; its level and its wording are
functions of it.
-/

namespace PartitionBoot

inductive Level where
  | error
  | warn
  | info
  | debug
  | trace
deriving DecidableEq

def Level.text : Level → String
  | error => "ERROR"
  | warn => "WARN"
  | info => "INFO"
  | debug => "DEBUG"
  | trace => "TRACE"

inductive SectionAccess where
  | code
  | data
  | constants
deriving DecidableEq

def SectionAccess.text : SectionAccess → String
  | code => "RX"
  | data => "RW"
  | constants => "RO"

inductive Notice where
  -- The supervisor.
  | versionsCompared (advertised : Version) (outcome : Negotiation)
  | versionQueryFailed (error : CallError)
  | versionIncompatible (peer : Version)
  | legacySupervisor (peer required : Version)
  | permissionsStored (base stop : UInt64) (word : AttributeWord)
  | permissionRefused (change : PermissionChange) (base : UInt64) (error : CallError)
  -- The hand-off blob.
  | handOffNull
  | handOffSignature (found : UInt32)
  | handOffSize (declared available : Nat)
  | descriptorTooSmall (size : Nat)
  | descriptorOutOfBounds (index : Nat)
  | manifestDescriptorMissing
  | manifestLocated (address : UInt64) (size : UInt32)
  -- The device tree and the manifest in it.
  | manifestMagic (found : UInt32)
  | unexpectedToken (tag : UInt32) (offset : Nat)
  | propertyWidth (name : String) (actual expected : Nat)
  | propertyMissing (name : String)
  | manifestUnreadable (fault : ManifestFault)
  | manifestNodeMissing (compatible : String)
  | loadAddress (value : UInt64)
  | entryOffset (value : UInt32)
  | imageSize (value : UInt64)
  | granuleValue (value : UInt32)
  | granuleUnknown (value : UInt32)
  | loadAddressOverflow (loadAddress : UInt64) (entryOffset : UInt32)
  | partitionImage (base size pageSize : UInt64)
  | regionsMissing (node : String)
  | regionFields (base : UInt64) (pages : UInt32)
  | regionEmpty (name : List UInt8)
  | regionFound (name : List UInt8) (base size : UInt64)
  | regionMissing (name : List UInt8)
  | heapAbsent
  -- The firmware volume.
  | volumeMissing (address : UInt64)
  | volumeSignature
  | corruptFile (offset size : Nat)
  | corruptSection (offset size : Nat)
  | padFile (offset : Nat)
  | coreFile (offset size : Nat)
  | coreImage (offset size : Nat) (kind : UInt8)
  | coreFileWithoutImage
  | coreFileMissing
  -- The image.
  | imageSignature (found : UInt16)
  | strippedSize (size : Nat)
  | peSignatureMissing (offset : Nat)
  | optionalHeaderMagic (found : UInt16)
  | sectionTableOutside (count : UInt16) (offset : UInt32)
  | imageLayout (format : ImageFormat) (declaredBase trueBase : UInt64) (sections : UInt16)
  | sectionProtected (label : List UInt8) (base size : UInt64) (access : SectionAccess)
  | imageInPlace
  | imageMoving (origin target : UInt64)
  | fixupsApplied (count : Nat) (delta : UInt64)
  | entryPoint (address : UInt64)
  -- The heap.
  | heapStarting (base size : UInt64)
  | pagePool (first stop pages bookkeeping : Nat)
  | pagesCarved (base stop : Nat)
  | pagesReleased (base stop : Nat)
  | poolRefilled (blockSize page : Nat)
  -- The boot as a whole.
  | bootComplete
  | moduleStarting (name : String)
  | bootFailed (failure : BootFailure)
deriving DecidableEq

namespace Notice

def level : Notice → Level
  | legacySupervisor .. | heapAbsent => .warn
  | versionsCompared .. | manifestLocated .. | partitionImage .. | regionFound .. | coreImage ..
  | imageLayout .. | imageMoving .. | entryPoint _ | heapStarting .. | bootComplete
  | moduleStarting _ => .info
  | loadAddress _ | entryOffset _ | imageSize _ | granuleValue _ | regionFields .. | coreFile ..
  | sectionProtected .. | imageInPlace | fixupsApplied .. | pagePool .. => .debug
  | permissionsStored .. | padFile _ | pagesCarved .. | pagesReleased .. | poolRefilled .. => .trace
  | _ => .error

def text : Notice → String
  | versionsCompared advertised outcome =>
      s!"FF-A version: local {advertised.text}, SPM {outcome.peer.text} (compatible: " ++
        s!"{outcome.compatible}, full: {outcome.complete})"
  | versionQueryFailed error => s!"FF-A version query failed: {error.text}"
  | versionIncompatible peer => s!"Incompatible FF-A version {peer.text}"
  | legacySupervisor peer required =>
      s!"SPM offers FF-A {peer.text}, {required.text} required for FF-A only boot"
  | permissionsStored base stop word =>
      s!"mem perm {hex base.toNat} - {hex stop.toNat}: {word.text}"
  | permissionRefused change base error =>
      s!"{change.text} at {hex base.toNat} failed: {error.text}"
  | handOffNull => "FF-A boot information is NULL"
  | handOffSignature found => s!"Invalid FF-A boot information signature: {hex found.toNat}"
  | handOffSize declared available =>
      s!"FF-A boot information size {hex declared} is invalid (buffer {hex available})"
  | descriptorTooSmall size => s!"FF-A boot information descriptor size {hex size} too small"
  | descriptorOutOfBounds index => s!"FF-A boot information descriptor {index} out of bounds"
  | manifestDescriptorMissing =>
      "SP manifest descriptor not found in FF-A boot information"
  | manifestLocated address size =>
      s!"SP manifest at {hex address.toNat} ({hex size.toNat} bytes)"
  | manifestMagic found => s!"Invalid manifest magic: {hex found.toNat}"
  | unexpectedToken tag offset =>
      s!"Unexpected device tree token {hex tag.toNat} at {hex offset}"
  | propertyWidth name actual expected => s!"{name}: {actual} bytes, expected {expected}"
  | propertyMissing name => s!"{name} missing in manifest"
  | manifestUnreadable fault => s!"Manifest is not a readable device tree: {fault.text}"
  | manifestNodeMissing compatible => s!"No node compatible with {compatible} in manifest"
  | loadAddress value => s!"load-address = {hex value.toNat}"
  | entryOffset value => s!"entrypoint-offset = {hex value.toNat}"
  | imageSize value => s!"image-size = {hex value.toNat}"
  | granuleValue value => s!"xlat-granule = {value.toNat}"
  | granuleUnknown value => s!"Invalid page type: {value.toNat}"
  | loadAddressOverflow address offset =>
      s!"load-address {hex address.toNat} + entrypoint-offset {hex offset.toNat} overflows"
  | partitionImage base size pageSize =>
      s!"SP image: {hex base.toNat} - {hex size.toNat}, page size {hex pageSize.toNat}"
  | regionsMissing node => s!"{node}: Missing in FF-A boot information manifest"
  | regionFields base pages =>
      s!"base-address = {hex base.toNat}, pages-count = {hex pages.toNat}"
  | regionEmpty name => s!"{latin1 name} region is empty"
  | regionFound name base size =>
      s!"{latin1 name}: {hexPadded 16 base.toNat} - {hexPadded 16 size.toNat}"
  | regionMissing name => s!"Failed to read {latin1 name} region"
  | heapAbsent => "No heap region in manifest, booting without an allocator"
  | volumeMissing address => s!"No firmware volume at {hex address.toNat}"
  | volumeSignature => "Invalid firmware volume signature"
  | corruptFile offset size => s!"Corrupt FFS file header at {hex offset} (size {hex size})"
  | corruptSection offset size => s!"Corrupt section header at {hex offset} (size {hex size})"
  | padFile offset => s!"pad file at {hex offset}"
  | coreFile offset size => s!"MM core file at {hex offset} ({hex size} bytes)"
  | coreImage offset size kind =>
      s!"MM core image at FV offset {hex offset} ({hex size} bytes, section type " ++
        s!"{hex kind.toNat})"
  | coreFileWithoutImage => "MM core file carries no PE32 or TE section"
  | coreFileMissing => "MM core file not found in firmware volume"
  | imageSignature found => s!"Unknown image signature {hexPadded 4 found.toNat}"
  | strippedSize size => s!"TE stripped size {hex size} smaller than its header"
  | peSignatureMissing offset => s!"Missing PE signature at {hex offset}"
  | optionalHeaderMagic found => s!"Unknown optional header magic {hex found.toNat}"
  | sectionTableOutside count offset =>
      s!"Section table ({count.toNat} entries at {hex offset.toNat}) outside the image"
  | imageLayout format declaredBase trueBase sections =>
      s!"MM core image: {format.text}, declared base {hex declaredBase.toNat}, loaded base " ++
        s!"{hex trueBase.toNat}, {sections.toNat} sections"
  | sectionProtected label base size access =>
      s!"{latin1 label}: {hex base.toNat} - {hex size.toNat} {access.text}"
  | imageInPlace => "MM core image runs at its linked address"
  | imageMoving origin target =>
      s!"Relocating MM core image: {hex origin.toNat} -> {hex target.toNat}"
  | fixupsApplied count delta => s!"applied {count} fixups, delta {hex delta.toNat}"
  | entryPoint address => s!"MM core entry point at {hex address.toNat}"
  | heapStarting base size =>
      s!"Initializing memory services: {hexPadded 16 base.toNat} - {hexPadded 16 size.toNat}"
  | pagePool first stop pages bookkeeping =>
      s!"Page pool: {hex first} - {hex stop} ({pages} pages, {bookkeeping} for bookkeeping)"
  | pagesCarved base stop => s!"carved {hex base} - {hex stop}"
  | pagesReleased base stop => s!"released {hex base} - {hex stop}"
  | poolRefilled blockSize page => s!"pool class {blockSize} refilled from page {hex page}"
  | bootComplete => "SP bootstrap complete"
  | moduleStarting name => s!"Starting {name}"
  | bootFailed failure => failure.message

end Notice

end PartitionBoot
