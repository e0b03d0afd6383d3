import PartitionBoot.Failure

/-!
What the headers of an executable image say about it. Section and entry addresses are relative to
an origin; in a stripped (TE) image the data begins a little after that origin, because headers
were removed in front of it.
-/

namespace PartitionBoot

inductive ImageFormat where
  | te
  | pe32
  | pe32Plus
deriving DecidableEq

def ImageFormat.text : ImageFormat → String
  | te => "Te"
  | pe32 => "Pe32"
  | pe32Plus => "Pe32Plus"

structure Directory where
  rva : UInt32
  size : UInt32
deriving DecidableEq

structure ImageContext where
  /-- Where the image data is taken to sit: at first where the headers expect it, after a move
  where it really is. -/
  imageAddress : UInt64
  imageBase : UInt64
  format : ImageFormat
  /-- Bytes between the origin of relative addresses and the first byte of image data. -/
  headerAdjust : UInt64
  imageBaseOffset : Nat
  entryPoint : UInt32
  relocations : Directory
  relocationsStripped : Bool
deriving DecidableEq

namespace ImageContext

def offsetOf? (context : ImageContext) (rva : UInt32) : Option Nat :=
  if context.headerAdjust.toNat ≤ rva.toNat then some (rva.toNat - context.headerAdjust.toNat)
  else none

def linkedAddress (context : ImageContext) : UInt64 := context.imageBase + context.headerAdjust

end ImageContext

structure ImageLayout where
  declaredBase : UInt64
  trueBase : UInt64
  sectionTable : UInt32
  sectionCount : UInt16
deriving DecidableEq

def ImageLayout.addressOf? (layout : ImageLayout) (rva : UInt32) : Option UInt64 :=
  if layout.trueBase.toNat + rva.toNat < UInt64.size then some (layout.trueBase + rva.toUInt64)
  else none

structure ImageSection where
  name : List UInt8
  size : UInt32
  rva : UInt32
  flags : UInt32
deriving DecidableEq

namespace ImageSection

def containsCode : UInt32 := 0x00000020
def executable : UInt32 := 0x20000000
def writable : UInt32 := 0x80000000

def isCode (entry : ImageSection) : Bool := entry.flags &&& (containsCode ||| executable) != 0

def isWritable (entry : ImageSection) : Bool := entry.flags &&& writable = writable

def label (entry : ImageSection) : List UInt8 := entry.name.takeWhile (· != 0)

end ImageSection

inductive RelocationError where
  | relocationsStripped
  | badBlock (offset : Nat)
  | unsupportedKind (kind : UInt16)
  | outOfBounds (rva : UInt32)
deriving DecidableEq

def RelocationError.message : RelocationError → String
  | relocationsStripped => "relocations stripped"
  | badBlock offset => s!"bad relocation block at {hex offset}"
  | unsupportedKind kind => s!"unsupported relocation type {kind.toNat}"
  | outOfBounds rva => s!"fixup at rva {hex rva.toNat} out of bounds"

end PartitionBoot
