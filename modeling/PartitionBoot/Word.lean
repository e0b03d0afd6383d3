/-!
Fixed-width numbers as byte sequences, in the two byte orders the hand-off formats use, and the
rounding of offsets to an alignment.
-/

namespace PartitionBoot

def ofLittleEndian : List UInt8 → Nat
  | [] => 0
  | low :: rest => low.toNat + 256 * ofLittleEndian rest

def ofBigEndian (bytes : List UInt8) : Nat :=
  ofLittleEndian bytes.reverse

def littleEndian : Nat → Nat → List UInt8
  | 0, _ => []
  | count + 1, value => UInt8.ofNat value :: littleEndian count (value / 256)

def bigEndian (count value : Nat) : List UInt8 :=
  (littleEndian count value).reverse

@[simp] theorem length_littleEndian (count value : Nat) :
    (littleEndian count value).length = count := by
  induction count generalizing value with
  | zero => rfl
  | succ count ih => simp [littleEndian, ih]

@[simp] theorem length_bigEndian (count value : Nat) : (bigEndian count value).length = count := by
  simp [bigEndian]

theorem ofLittleEndian_littleEndian (count value : Nat) :
    ofLittleEndian (littleEndian count value) = value % Nat.pow 256 count := by
  rw [Nat.pow_eq]
  induction count generalizing value with
  | zero => simp [littleEndian, ofLittleEndian, Nat.mod_one]
  | succ count ih =>
      have low : (UInt8.ofNat value).toNat = value % 256 := by simp
      rw [littleEndian, ofLittleEndian, ih, low, Nat.pow_succ, Nat.mul_comm _ 256, Nat.mod_mul]

theorem ofBigEndian_bigEndian (count value : Nat) :
    ofBigEndian (bigEndian count value) = value % Nat.pow 256 count := by
  simp [ofBigEndian, bigEndian, ofLittleEndian_littleEndian]

theorem ofLittleEndian_lt (bytes : List UInt8) : ofLittleEndian bytes < Nat.pow 256 bytes.length := by
  rw [Nat.pow_eq]
  induction bytes with
  | nil => simp [ofLittleEndian]
  | cons low rest ih =>
      have bound : low.toNat < 256 := low.toNat_lt
      rw [ofLittleEndian, List.length_cons, Nat.pow_succ]
      omega

def alignUp (offset alignment : Nat) : Nat :=
  (offset + (alignment - 1)) / alignment * alignment

theorem le_alignUp (offset : Nat) {alignment : Nat} (positive : 0 < alignment) :
    offset ≤ alignUp offset alignment := by
  have quotient := Nat.div_add_mod (offset + (alignment - 1)) alignment
  have remainder := Nat.mod_lt (offset + (alignment - 1)) positive
  rw [Nat.mul_comm] at quotient
  simp only [alignUp]
  omega

/-- The least multiple of an alignment at or above an address, if the address space holds the
largest address that rounding has to consider. -/
def alignUp? (address alignment : UInt64) : Option UInt64 :=
  if address.toNat + (alignment.toNat - 1) < UInt64.size then
    some (UInt64.ofNat (alignUp address.toNat alignment.toNat))
  else none

end PartitionBoot
