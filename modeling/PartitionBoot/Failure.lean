import PartitionBoot.Supervisor.CallError
import PartitionBoot.Text

/-!
Why a boot fails. Every failure is a cause; its status and its wording are functions of the cause.
-/

namespace PartitionBoot

inductive ManifestFault where
  | unknownGranule (value : UInt32)
  | propertyWidth (name : String) (expected actual : Nat)
  | outOfBounds
  | badStructure
deriving DecidableEq

inductive ManifestAbsence where
  | nullHandOff
  | handOffMagic (found : UInt32)
  | noManifestDescriptor
  | manifestMagic (found : UInt32)
  | unreadable (fault : ManifestFault)
  | noManifestNode
  | missingProperty (name : String)
  | noMemoryRegions
deriving DecidableEq

inductive ImageFault where
  | badVolume
  | badSignature
  | truncated
deriving DecidableEq

inductive PermissionChange where
  | setNoExec
  | setReadOnly
  | clearReadOnly
deriving DecidableEq

inductive BootFailure where
  | versionQuery (error : CallError)
  | versionMismatch (advertised peer : UInt16)
  | manifestMissing (absence : ManifestAbsence)
  | manifestMalformed (fault : ManifestFault)
  | heapRegionMissing
  | imageNotFound
  | imageMalformed (fault : ImageFault)
  | permissionRefused (change : PermissionChange) (base : UInt64) (error : CallError)
deriving DecidableEq

namespace ManifestFault

def description : ManifestFault → String
  | unknownGranule _ => "Invalid page type"
  | propertyWidth .. => "Property has unexpected width"
  | outOfBounds => "Manifest offset out of bounds"
  | badStructure => "Malformed manifest structure"

def text : ManifestFault → String
  | unknownGranule value => s!"UnknownGranule({value.toNat})"
  | propertyWidth name expected actual =>
      "PropertyWidth \x7b name: " ++ quoted name ++ ", expected: " ++ toString expected ++
        ", actual: " ++ toString actual ++ " \x7d"
  | outOfBounds => "OutOfBounds"
  | badStructure => "BadStructure"

end ManifestFault

namespace ManifestAbsence

/-- A manifest that cannot be found is missing; anything else is a bad parameter of the boot. -/
def status : ManifestAbsence → Status
  | noManifestDescriptor | manifestMagic _ | unreadable _ | noManifestNode => .notFound
  | nullHandOff | handOffMagic _ | missingProperty _ | noMemoryRegions => .invalidParameter

def description : ManifestAbsence → String
  | nullHandOff => "FF-A boot information is NULL"
  | handOffMagic _ => "Invalid boot information magic"
  | noManifestDescriptor => "SP manifest descriptor not found"
  | manifestMagic _ => "Invalid manifest magic"
  | unreadable _ => "Manifest is not a readable device tree"
  | noManifestNode => "Missing FF-A boot information in manifest"
  | missingProperty _ => "Property missing in manifest"
  | noMemoryRegions => "memory-regions missing in manifest"

end ManifestAbsence

def ImageFault.description : ImageFault → String
  | badVolume => "Invalid firmware volume"
  | badSignature => "Unknown image signature"
  | truncated => "Image headers truncated"

def PermissionChange.text : PermissionChange → String
  | setNoExec => "SetNoExec"
  | setReadOnly => "SetReadOnly"
  | clearReadOnly => "ClearReadOnly"

namespace BootFailure

def status : BootFailure → Status
  | versionQuery error => error.status
  | versionMismatch .. => .unsupported
  | manifestMissing absence => absence.status
  | manifestMalformed _ => .invalidParameter
  | heapRegionMissing => .unsupported
  | imageNotFound => .notFound
  | imageMalformed _ => .unsupported
  | permissionRefused _ _ error => error.status

def description : BootFailure → String
  | versionQuery _ => "FF-A version query failed"
  | versionMismatch .. => "FF-A major version mismatch"
  | manifestMissing absence => absence.description
  | manifestMalformed fault => fault.description
  | heapRegionMissing => "Failed to read heap region"
  | imageNotFound => "MM core image not found"
  | imageMalformed fault => fault.description
  | permissionRefused .. => "Memory permission update failed"

def detail : BootFailure → String
  | versionQuery error => s!": ffa error {error.code.toInt}"
  | versionMismatch advertised peer => s!": local v{advertised.toNat}, peer v{peer.toNat}"
  | manifestMissing (.handOffMagic found) => s!": {hex found.toNat}"
  | manifestMissing (.manifestMagic found) => s!": {hex found.toNat}"
  | manifestMissing (.missingProperty name) => s!": {name}"
  | manifestMissing (.unreadable fault) => s!": {fault.text}"
  | manifestMalformed (.unknownGranule value) => s!": {value.toNat}"
  | manifestMalformed (.propertyWidth name expected actual) =>
      s!": {name} is {actual} bytes, expected {expected}"
  | permissionRefused change base error =>
      s!": {change.text} at {hex base.toNat}, ffa error {error.code.toInt}"
  | _ => ""

def message (failure : BootFailure) : String :=
  s!"BootError: {failure.description} ({failure.status.text}){failure.detail}"

end BootFailure

end PartitionBoot
