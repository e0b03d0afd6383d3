import PartitionBoot.Memory.Window
import PartitionBoot.Proofs.Memory
import PartitionBoot.Proofs.Span

/-!
Numbers in an image. A `Field` names where a number is stored; the checked readers return the
number of a field that lies inside, and a checked store sets one field and leaves all else alone.
-/

namespace PartitionBoot

structure Field where
  offset : Nat
  width : Nat
deriving DecidableEq

def Field.span (field : Field) : Span := ⟨field.offset, field.offset + field.width⟩

theorem ofLittleEndian_inj {first second : List UInt8} (length : first.length = second.length)
    (same : ofLittleEndian first = ofLittleEndian second) : first = second := by
  induction first generalizing second with
  | nil => exact (List.length_eq_zero_iff.mp length.symm).symm
  | cons low rest ih =>
      cases second with
      | nil => cases length
      | cons other more =>
          have lowBound := low.toNat_lt
          have otherBound := other.toNat_lt
          simp only [ofLittleEndian] at same
          have head : low = other := UInt8.toNat.inj (by omega)
          rw [head, ih (Nat.succ.inj length) (by omega)]

namespace Window

variable {window later : Window} {field other : Field} {offset : Nat}

def number (window : Window) (field : Field) : Nat :=
  window.memory.readNumber (window.base + field.offset) field.width

theorem number_lt (window : Window) (field : Field) :
    window.number field < Nat.pow 256 field.width := by
  have bound := ofLittleEndian_lt
    (window.memory.readBytes (window.base + field.offset) field.width)
  rwa [Memory.length_readBytes] at bound

theorem number_congr
    (same : ∀ offset, field.span.Covers offset → later.byte offset = window.byte offset) :
    later.number field = window.number field := by
  rw [number, number, Memory.readNumber, Memory.readNumber]
  congr 1
  simp only [Memory.readBytes]
  apply List.map_congr_left
  intro index bound
  have inside := List.mem_range.mp bound
  have here := same (field.offset + index)
    ⟨Nat.le_add_right _ _, Nat.add_lt_add_left inside _⟩
  simpa only [byte, Nat.add_assoc] using here

theorem byte_of_number (same : later.number field = window.number field)
    (covers : field.span.Covers offset) : later.byte offset = window.byte offset := by
  have bytes := ofLittleEndian_inj (by simp) same
  obtain ⟨index, rfl⟩ := Nat.exists_eq_add_of_le covers.1
  have inside : index < field.width := Nat.lt_of_add_lt_add_left covers.2
  have here := congrArg (·[index]?) bytes
  simpa [Memory.readBytes, inside, byte, Nat.add_assoc, Field.span] using here

theorem bytes_ext (size : later.size = window.size)
    (same : ∀ offset, later.byte offset = window.byte offset) : later.bytes = window.bytes := by
  rw [bytes, bytes, size]
  exact List.map_congr_left fun offset _ => same offset

def raised (window : Window) (field : Field) (distance : Nat) : Nat :=
  (window.number field + distance) % Nat.pow 256 field.width

theorem raised_lt (window : Window) (field : Field) (distance : Nat) :
    window.raised field distance < Nat.pow 256 field.width :=
  Nat.mod_lt _ (Nat.pow_pos (by decide))

theorem le16?_eq (window : Window) (offset : Nat) : window.le16? offset =
    if offset + 2 ≤ window.size then some (UInt16.ofNat (window.number ⟨offset, 2⟩))
    else none := by
  simp only [le16?, slice?]
  split <;> rfl

theorem le24?_eq (window : Window) (offset : Nat) : window.le24? offset =
    if offset + 3 ≤ window.size then some (UInt32.ofNat (window.number ⟨offset, 3⟩))
    else none := by
  simp only [le24?, slice?]
  split <;> rfl

theorem le32?_eq (window : Window) (offset : Nat) : window.le32? offset =
    if offset + 4 ≤ window.size then some (UInt32.ofNat (window.number ⟨offset, 4⟩))
    else none := by
  simp only [le32?, slice?]
  split <;> rfl

theorem le64?_eq (window : Window) (offset : Nat) : window.le64? offset =
    if offset + 8 ≤ window.size then some (UInt64.ofNat (window.number ⟨offset, 8⟩))
    else none := by
  simp only [le64?, slice?]
  split <;> rfl

/-! Fields that lie inside, and fields that do not. -/

theorem le16?_inside (inside : offset + 2 ≤ window.size) :
    window.le16? offset = some (UInt16.ofNat (window.number ⟨offset, 2⟩)) := by
  rw [le16?_eq, if_pos inside]

theorem le24?_inside (inside : offset + 3 ≤ window.size) :
    window.le24? offset = some (UInt32.ofNat (window.number ⟨offset, 3⟩)) := by
  rw [le24?_eq, if_pos inside]

theorem le32?_inside (inside : offset + 4 ≤ window.size) :
    window.le32? offset = some (UInt32.ofNat (window.number ⟨offset, 4⟩)) := by
  rw [le32?_eq, if_pos inside]

theorem le64?_inside (inside : offset + 8 ≤ window.size) :
    window.le64? offset = some (UInt64.ofNat (window.number ⟨offset, 8⟩)) := by
  rw [le64?_eq, if_pos inside]

theorem le32?_eq_none_iff : window.le32? offset = none ↔ window.size < offset + 4 := by
  simp [le32?_eq]

theorem le64?_eq_none_iff : window.le64? offset = none ↔ window.size < offset + 8 := by
  simp [le64?_eq]

theorem slice?_eq_none_iff {count : Nat} :
    window.slice? offset count = none ↔ window.size < offset + count := by
  simp [slice?]

theorem number_of_le16? {value : UInt16} (read : window.le16? offset = some value) :
    window.number ⟨offset, 2⟩ = value.toNat := by
  rw [le16?_eq] at read
  split at read
  · cases read
    rw [UInt16.toNat_ofNat']
    exact (Nat.mod_eq_of_lt (window.number_lt ⟨offset, 2⟩)).symm
  · cases read

theorem number_of_le32? {value : UInt32} (read : window.le32? offset = some value) :
    window.number ⟨offset, 4⟩ = value.toNat := by
  rw [le32?_eq] at read
  split at read
  · cases read
    rw [UInt32.toNat_ofNat']
    exact (Nat.mod_eq_of_lt (window.number_lt ⟨offset, 4⟩)).symm
  · cases read

theorem number_of_le64? {value : UInt64} (read : window.le64? offset = some value) :
    window.number ⟨offset, 8⟩ = value.toNat := by
  rw [le64?_eq] at read
  split at read
  · rw [← Option.some.inj read, UInt64.toNat_ofNat']
    exact (Nat.mod_eq_of_lt (window.number_lt ⟨offset, 8⟩)).symm
  · cases read

theorem number_of_le24? {value : UInt32} (read : window.le24? offset = some value) :
    window.number ⟨offset, 3⟩ = value.toNat := by
  rw [le24?_eq] at read
  split at read
  · have small : Nat.pow 256 3 < 2 ^ 32 := by decide
    rw [← Option.some.inj read, UInt32.toNat_ofNat']
    exact (Nat.mod_eq_of_lt (Nat.lt_trans (window.number_lt ⟨offset, 3⟩) small)).symm
  · cases read

theorem le64?_bound {value : UInt64} (read : window.le64? offset = some value) :
    offset + 8 ≤ window.size := by
  obtain ⟨part, cut, _⟩ := Option.map_eq_some_iff.mp read
  exact slice?_bound cut

theorem le16?_congr (size : later.size = window.size)
    (same : later.number ⟨offset, 2⟩ = window.number ⟨offset, 2⟩) :
    later.le16? offset = window.le16? offset := by
  rw [le16?_eq, le16?_eq, size, same]

theorem le32?_congr (size : later.size = window.size)
    (same : later.number ⟨offset, 4⟩ = window.number ⟨offset, 4⟩) :
    later.le32? offset = window.le32? offset := by
  rw [le32?_eq, le32?_eq, size, same]

/-- A later state of a window in which a field was set to a number and all else was kept. -/
structure Sets (later window : Window) (field : Field) (value : Nat) : Prop where
  follows : later.Follows window
  stored : later.number field = value
  kept : ∀ offset, ¬ field.span.Covers offset → later.byte offset = window.byte offset

theorem Sets.number_apart {value : Nat} (sets : later.Sets window field value)
    (apart : field.span.Apart other.span) : later.number other = window.number other :=
  number_congr fun _ covers => sets.kept _ (apart.not_covers covers)

theorem put?_sets {value : Nat} (inside : field.span.stop ≤ window.size)
    (fits : value < Nat.pow 256 field.width) :
    ∃ later, window.put? field.offset (littleEndian field.width value) = some later ∧
      later.Sets window field value := by
  have stored : window.put? field.offset (littleEndian field.width value) =
      some { window with memory :=
        window.memory.writeNumber (window.base + field.offset) field.width value } := by
    rw [put?, if_pos (by rwa [length_littleEndian])]
    rfl
  refine ⟨_, stored, follows_of_put? stored, Memory.readNumber_writeNumber fits, ?_⟩
  intro offset outside
  simp only [Span.Covers, Field.span] at outside
  exact Memory.read_writeBytes_outside _ _ (window.base + offset) _
    (by rw [length_littleEndian]; omega)

theorem put?_none {bytes : List UInt8} (outside : window.size < offset + bytes.length) :
    window.put? offset bytes = none := by
  rw [put?, if_neg (by omega)]

end Window

end PartitionBoot
