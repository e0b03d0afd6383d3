import Std.Data.TreeMap
import PartitionBoot.Word

/-!
Byte-addressed memory. `Memory.read` is its only view: every store is described by what a later
read sees at the stored addresses and by what it leaves alone everywhere else.
-/

namespace PartitionBoot

/-- Memory holds what it held at first, save at the addresses written since. -/
structure Memory where
  initial : Nat → UInt8
  written : Std.TreeMap Nat UInt8

namespace Memory

def ofInitial (initial : Nat → UInt8) : Memory := ⟨initial, ∅⟩

def zeroed : Memory := ofInitial fun _ => 0

def read (memory : Memory) (address : Nat) : UInt8 :=
  memory.written.getD address (memory.initial address)

/-- Stores a byte. A store that changes nothing is not kept. -/
def write (memory : Memory) (address : Nat) (value : UInt8) : Memory :=
  if memory.read address = value then memory
  else { memory with written := memory.written.insert address value }

@[simp] theorem read_ofInitial (initial : Nat → UInt8) (address : Nat) :
    (ofInitial initial).read address = initial address := by
  simp [ofInitial, read]

theorem read_write (memory : Memory) (address other : Nat) (value : UInt8) :
    (memory.write address value).read other =
      if address = other then value else memory.read other := by
  by_cases unchanged : memory.read address = value
  · rw [write, if_pos unchanged]
    split
    · subst other
      exact unchanged
    · rfl
  · rw [write, if_neg unchanged]
    simp only [read, Std.TreeMap.getD_insert, Nat.compare_eq_eq]

def readBytes (memory : Memory) (address count : Nat) : List UInt8 :=
  (List.range count).map fun index => memory.read (address + index)

@[simp] theorem length_readBytes (memory : Memory) (address count : Nat) :
    (memory.readBytes address count).length = count := by
  simp [readBytes]

theorem getElem_readBytes (memory : Memory) (address count index : Nat)
    (bound : index < (memory.readBytes address count).length) :
    (memory.readBytes address count)[index] = memory.read (address + index) := by
  simp [readBytes]

def writeBytes (memory : Memory) (address : Nat) : List UInt8 → Memory
  | [] => memory
  | value :: rest => (memory.write address value).writeBytes (address + 1) rest

theorem read_writeBytes_outside (memory : Memory) (address other : Nat) (bytes : List UInt8)
    (outside : other < address ∨ address + bytes.length ≤ other) :
    (memory.writeBytes address bytes).read other = memory.read other := by
  induction bytes generalizing memory address with
  | nil => rfl
  | cons value rest ih =>
      simp only [List.length_cons] at outside
      rw [writeBytes, ih _ _ (by omega), read_write, if_neg (by omega)]

theorem read_writeBytes_inside (memory : Memory) (address index : Nat) (bytes : List UInt8)
    (inside : index < bytes.length) :
    (memory.writeBytes address bytes).read (address + index) = bytes[index] := by
  induction bytes generalizing memory address index with
  | nil => simp at inside
  | cons value rest ih =>
      cases index with
      | zero =>
          rw [writeBytes, read_writeBytes_outside _ _ _ _ (by omega), read_write]
          simp
      | succ index =>
          simp only [List.length_cons] at inside
          rw [writeBytes, show address + (index + 1) = address + 1 + index by omega,
            ih _ _ _ (by omega)]
          simp

def fill (memory : Memory) (address : Nat) (value : UInt8) : Nat → Memory
  | 0 => memory
  | count + 1 => (memory.write address value).fill (address + 1) value count

theorem fill_eq_writeBytes (memory : Memory) (address count : Nat) (value : UInt8) :
    memory.fill address value count = memory.writeBytes address (List.replicate count value) := by
  induction count generalizing memory address with
  | zero => rfl
  | succ count ih => rw [fill, ih, List.replicate_succ, writeBytes]

def copy (memory : Memory) (source target count : Nat) : Memory :=
  memory.writeBytes target (memory.readBytes source count)

def readNumber (memory : Memory) (address count : Nat) : Nat :=
  ofLittleEndian (memory.readBytes address count)

def writeNumber (memory : Memory) (address count value : Nat) : Memory :=
  memory.writeBytes address (littleEndian count value)

def changes (memory : Memory) : List (Nat × UInt8) :=
  memory.written.toList.filter fun entry => entry.2 != memory.initial entry.1

def joinRuns (entries : List (Nat × UInt8)) : List (Nat × List UInt8) :=
  entries.foldr (fun entry joined =>
    match joined with
    | (start, bytes) :: rest =>
        if entry.1 + 1 = start then (entry.1, entry.2 :: bytes) :: rest
        else (entry.1, [entry.2]) :: joined
    | [] => [(entry.1, [entry.2])]) []

def changedRuns (memory : Memory) : List (Nat × List UInt8) := joinRuns memory.changes

end Memory

end PartitionBoot
