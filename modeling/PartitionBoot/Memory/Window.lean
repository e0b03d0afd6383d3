import PartitionBoot.Memory

/-!
Bounded windows on memory. Every access through a window is checked against its size, so a reader
of untrusted bytes gets `none` where it would leave them, and a store through a window leaves all
memory outside it alone.
-/

namespace PartitionBoot

/-- The bytes `[base, base + size)` of a memory, addressed by their offset from `base`. -/
structure Window where
  memory : Memory
  base : Nat
  size : Nat

namespace Window

def ofBytes (bytes : List UInt8) : Window :=
  ⟨Memory.ofInitial fun address => bytes.getD address 0, 0, bytes.length⟩

def byte (window : Window) (offset : Nat) : UInt8 :=
  window.memory.read (window.base + offset)

def byte? (window : Window) (offset : Nat) : Option UInt8 :=
  if offset < window.size then some (window.byte offset) else none

def bytes (window : Window) : List UInt8 :=
  window.memory.readBytes window.base window.size

def slice? (window : Window) (offset count : Nat) : Option Window :=
  if offset + count ≤ window.size then
    some { window with base := window.base + offset, size := count }
  else none

def suffix? (window : Window) (offset : Nat) : Option Window :=
  window.slice? offset (window.size - offset)

theorem slice?_eq_some_iff {window part : Window} {offset count : Nat} :
    window.slice? offset count = some part ↔
      offset + count ≤ window.size ∧
        part = { window with base := window.base + offset, size := count } := by
  simp only [slice?]
  split
  · simp_all [eq_comm]
  · simp
    omega

def indexFrom? (window : Window) (value : UInt8) (offset : Nat) : Nat → Option Nat
  | 0 => none
  | count + 1 =>
      if window.byte offset = value then some offset
      else window.indexFrom? value (offset + 1) count

def indexOf? (window : Window) (value : UInt8) : Option Nat :=
  window.indexFrom? value 0 window.size

theorem indexFrom?_bounds {window : Window} {value : UInt8} {offset count found : Nat}
    (some : window.indexFrom? value offset count = some found) :
    offset ≤ found ∧ found < offset + count := by
  induction count generalizing offset with
  | zero => simp [indexFrom?] at some
  | succ count ih =>
      rw [indexFrom?] at some
      split at some
      · simp at some
        omega
      · have bounds := ih some
        omega

theorem indexOf?_lt {window : Window} {value : UInt8} {found : Nat}
    (some : window.indexOf? value = some found) : found < window.size := by
  have bounds := indexFrom?_bounds some
  omega

/-! Numbers inside the window. -/

def le16? (window : Window) (offset : Nat) : Option UInt16 :=
  (window.slice? offset 2).map fun field => UInt16.ofNat (ofLittleEndian field.bytes)

def le24? (window : Window) (offset : Nat) : Option UInt32 :=
  (window.slice? offset 3).map fun field => UInt32.ofNat (ofLittleEndian field.bytes)

def le32? (window : Window) (offset : Nat) : Option UInt32 :=
  (window.slice? offset 4).map fun field => UInt32.ofNat (ofLittleEndian field.bytes)

def le64? (window : Window) (offset : Nat) : Option UInt64 :=
  (window.slice? offset 8).map fun field => UInt64.ofNat (ofLittleEndian field.bytes)

def be32? (window : Window) (offset : Nat) : Option UInt32 :=
  (window.slice? offset 4).map fun field => UInt32.ofNat (ofBigEndian field.bytes)

def be64? (window : Window) (offset : Nat) : Option UInt64 :=
  (window.slice? offset 8).map fun field => UInt64.ofNat (ofBigEndian field.bytes)

theorem slice?_bound {window part : Window} {offset count : Nat}
    (found : window.slice? offset count = some part) : offset + count ≤ window.size :=
  (slice?_eq_some_iff.mp found).1

theorem be32?_bound {window : Window} {offset : Nat} {value : UInt32}
    (found : window.be32? offset = some value) : offset + 4 ≤ window.size := by
  obtain ⟨part, slice, _⟩ := Option.map_eq_some_iff.mp found
  exact slice?_bound slice

theorem le32?_bound {window : Window} {offset : Nat} {value : UInt32}
    (found : window.le32? offset = some value) : offset + 4 ≤ window.size := by
  obtain ⟨part, slice, _⟩ := Option.map_eq_some_iff.mp found
  exact slice?_bound slice

def put? (window : Window) (offset : Nat) (bytes : List UInt8) : Option Window :=
  if offset + bytes.length ≤ window.size then
    some { window with memory := window.memory.writeBytes (window.base + offset) bytes }
  else none

def putLe32? (window : Window) (offset : Nat) (value : UInt32) : Option Window :=
  window.put? offset (littleEndian 4 value.toNat)

def putLe64? (window : Window) (offset : Nat) (value : UInt64) : Option Window :=
  window.put? offset (littleEndian 8 value.toNat)

def Covers (window : Window) (address : Nat) : Prop :=
  window.base ≤ address ∧ address < window.base + window.size

/-- A later state of the same window: the bounds stay, and so does all memory outside them. -/
structure Follows (later earlier : Window) : Prop where
  base : later.base = earlier.base
  size : later.size = earlier.size
  outside : ∀ address, ¬ earlier.Covers address →
    later.memory.read address = earlier.memory.read address

theorem Follows.refl (window : Window) : window.Follows window := ⟨rfl, rfl, fun _ _ => rfl⟩

theorem Follows.trans {last middle first : Window} (after : last.Follows middle)
    (before : middle.Follows first) : last.Follows first where
  base := after.base.trans before.base
  size := after.size.trans before.size
  outside address outside := by
    rw [after.outside address, before.outside address outside]
    simpa [Covers, before.base, before.size] using outside

theorem follows_of_put? {window later : Window} {offset : Nat} {bytes : List UInt8}
    (stored : window.put? offset bytes = some later) : later.Follows window := by
  simp only [put?] at stored
  split at stored
  · cases stored
    refine ⟨rfl, rfl, fun address outside => ?_⟩
    apply Memory.read_writeBytes_outside
    simp only [Covers] at outside
    omega
  · cases stored

end Window

def Memory.window (memory : Memory) (base size : Nat) : Window := ⟨memory, base, size⟩

end PartitionBoot
