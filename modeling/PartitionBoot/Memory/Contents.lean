import PartitionBoot.Memory.Window

/-!
Contents to fill memory with: a count of bytes and the byte at each offset, made from one value
and the places that differ from it.
-/

namespace PartitionBoot

structure Contents where
  size : Nat
  byte : Nat → UInt8

namespace Contents

def ofBytes (bytes : List UInt8) : Contents :=
  let array := bytes.toArray
  ⟨array.size, fun offset => array.getD offset 0⟩

def filled (size : Nat) (value : UInt8) : Contents := ⟨size, fun _ => value⟩

def overlay (below : Contents) (start : Nat) (top : Contents) : Contents :=
  ⟨below.size, fun offset =>
    if start ≤ offset ∧ offset < start + top.size then top.byte (offset - start)
    else below.byte offset⟩

def bytes (contents : Contents) : List UInt8 := (List.range contents.size).map contents.byte

def window (contents : Contents) (address : Nat) : Window where
  memory := Memory.ofInitial fun place =>
    if address ≤ place ∧ place < address + contents.size then contents.byte (place - address)
    else 0
  base := address
  size := contents.size

end Contents

/-- Memory that holds contents at addresses and is zero elsewhere. Where contents overlap, the
later ones count. -/
def Memory.holding (chunks : List (Nat × Contents)) : Memory :=
  Memory.ofInitial (chunks.foldl (fun before chunk place =>
    if chunk.1 ≤ place ∧ place < chunk.1 + chunk.2.size then chunk.2.byte (place - chunk.1)
    else before place) fun _ => 0)

end PartitionBoot
