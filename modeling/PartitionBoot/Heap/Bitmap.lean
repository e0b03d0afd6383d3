import PartitionBoot.Memory

/-!
Bitmaps in memory: bit `index` is bit `index % 8` of byte `index / 8`, which is also how
little-endian words number their bits.
-/

namespace PartitionBoot

namespace Memory

def testBit (memory : Memory) (bitmap index : Nat) : Bool :=
  (memory.read (bitmap + index / 8)).toNat.testBit (index % 8)

def bitMask (bit : Nat) : UInt8 := UInt8.ofNat (1 <<< bit)

def setBit (memory : Memory) (bitmap index : Nat) (value : Bool) : Memory :=
  let address := bitmap + index / 8
  let mask := bitMask (index % 8)
  let byte := memory.read address
  memory.write address (if value then byte ||| mask else byte &&& (255 ^^^ mask))

def setBits (memory : Memory) (bitmap index : Nat) (value : Bool) : Nat → Memory
  | 0 => memory
  | count + 1 => (memory.setBit bitmap index value).setBits bitmap (index + 1) value count

def wordFull (memory : Memory) (bitmap word : Nat) : Bool :=
  (memory.readBytes (bitmap + 8 * word) 8).all (· = 255)

theorem testBit_write_other (memory : Memory) (bitmap index address : Nat) (value : UInt8)
    (other : bitmap + index / 8 ≠ address) :
    (memory.write address value).testBit bitmap index = memory.testBit bitmap index := by
  simp only [testBit, read_write, if_neg (Ne.symm other)]

private theorem testBit_mask (byte : UInt8) (low bit : Fin 8) (value : Bool) :
    (if value then byte ||| bitMask low.val
      else byte &&& (255 ^^^ bitMask low.val)).toNat.testBit bit.val =
      if low = bit then value else byte.toNat.testBit bit.val := by
  have mask : (bitMask low.val).toNat = Nat.pow 2 low.val := by
    rw [bitMask, UInt8.toNat_ofNat', Nat.one_shiftLeft, Nat.pow_eq]
    exact Nat.mod_eq_of_lt (Nat.pow_lt_pow_right (by decide) low.isLt)
  have ones : ∀ bit : Fin 8, (255 : Nat).testBit bit.val = true := by decide
  cases value
  · simp only [Bool.false_eq_true, if_false, UInt8.toNat_and, UInt8.toNat_xor, mask, Nat.pow_eq,
      Nat.testBit_and, Nat.testBit_xor, Nat.testBit_two_pow]
    rw [show (255 : UInt8).toNat = 255 from rfl, ones bit]
    by_cases same : low = bit
    · simp [same]
    · have differ : ¬ low.val = bit.val := fun equal => same (Fin.ext equal)
      simp [same, differ]
  · simp only [if_true, UInt8.toNat_or, mask, Nat.pow_eq, Nat.testBit_or,
      Nat.testBit_two_pow]
    by_cases same : low = bit
    · simp [same]
    · have differ : ¬ low.val = bit.val := fun equal => same (Fin.ext equal)
      simp [same, differ]

theorem testBit_setBit (memory : Memory) (bitmap index other : Nat) (value : Bool) :
    (memory.setBit bitmap index value).testBit bitmap other =
      if index = other then value else memory.testBit bitmap other := by
  by_cases sameByte : index / 8 = other / 8
  · have masked := testBit_mask (memory.read (bitmap + other / 8))
      ⟨index % 8, Nat.mod_lt _ (by decide)⟩ ⟨other % 8, Nat.mod_lt _ (by decide)⟩ value
    simp only [Fin.mk.injEq] at masked
    simp only [setBit, testBit, read_write, sameByte, if_true, masked]
    by_cases same : index = other
    · simp [same]
    · have differ : ¬ index % 8 = other % 8 := by omega
      simp [same, differ]
  · have different : ¬ index = other := fun equal => sameByte (by rw [equal])
    rw [setBit, testBit_write_other _ _ _ _ _ (by omega), if_neg different]

theorem read_setBit_other (memory : Memory) (bitmap index address : Nat) (value : Bool)
    (other : bitmap + index / 8 ≠ address) :
    (memory.setBit bitmap index value).read address = memory.read address := by
  simp only [setBit, read_write, if_neg other]

theorem testBit_setBits (memory : Memory) (bitmap index count other : Nat) (value : Bool) :
    (memory.setBits bitmap index value count).testBit bitmap other =
      if index ≤ other ∧ other < index + count then value
      else memory.testBit bitmap other := by
  induction count generalizing memory index with
  | zero => simp [setBits, show ¬ (index ≤ other ∧ other < index) by omega]
  | succ count ih =>
      rw [setBits, ih, testBit_setBit]
      by_cases first : index = other
      · simp [first]
      · by_cases later : index + 1 ≤ other ∧ other < index + 1 + count
        · rw [if_pos later, if_pos (by omega)]
        · rw [if_neg later, if_neg first, if_neg (by omega)]

theorem read_setBits_outside (memory : Memory) (bitmap index count address : Nat) (value : Bool)
    (outside : ∀ bit, index ≤ bit → bit < index + count → bitmap + bit / 8 ≠ address) :
    (memory.setBits bitmap index value count).read address = memory.read address := by
  induction count generalizing memory index with
  | zero => rfl
  | succ count ih =>
      rw [setBits, ih _ _ fun bit lower upper => outside bit (by omega) (by omega),
        read_setBit_other _ _ _ _ _ (outside index (by omega) (by omega))]

end Memory

end PartitionBoot
