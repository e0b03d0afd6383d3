/-!
Interface versions and their comparison.
-/

namespace PartitionBoot

structure Version where
  major : UInt16
  minor : UInt16
deriving DecidableEq

namespace Version

/-- The register encoding: the minor version in bits 15 to 0, the major version in bits 30 to 16. -/
def encode (version : Version) : UInt32 :=
  ((version.major.toUInt32 &&& 0x7fff) <<< 16) ||| version.minor.toUInt32

def decode (word : UInt32) : Version where
  major := ((word >>> 16) &&& 0x7fff).toUInt16
  minor := (word &&& 0xffff).toUInt16

def precedes (version other : Version) : Bool :=
  version.major < other.major || (version.major = other.major && version.minor < other.minor)

def text (version : Version) : String := s!"v{version.major.toNat}.{version.minor.toNat}"

end Version

structure Negotiation where
  peer : Version
  compatible : Bool
  /-- The supervisor offers everything the advertised version has. -/
  complete : Bool
deriving DecidableEq

def Negotiation.evaluate (advertised peer : Version) : Negotiation :=
  let compatible : Bool := peer.major = advertised.major
  { peer, compatible, complete := compatible && advertised.minor ≤ peer.minor }

end PartitionBoot
