import PartitionBoot.Heap.Blocks

/-!
Numbers and block headers in memory: what was stored is read back, what lies apart from a store is
kept, and a reader depends on nothing but the addresses it reads.
-/

namespace PartitionBoot

structure BlockHeader.Fits (header : BlockHeader) : Prop where
  signature : header.signature < Nat.pow 256 4
  sizeClass : header.sizeClass < Nat.pow 256 4
  size : header.size < Nat.pow 256 8

namespace Memory

/-- Both memories hold the same bytes from one address up to another. -/
def Agrees (memory other : Memory) (start stop : Nat) : Prop :=
  ∀ address, start ≤ address → address < stop → memory.read address = other.read address

theorem Agrees.refl (memory : Memory) (start stop : Nat) : memory.Agrees memory start stop :=
  fun _ _ _ => rfl

theorem Agrees.trans {first second third : Memory} {start stop : Nat}
    (left : first.Agrees second start stop) (right : second.Agrees third start stop) :
    first.Agrees third start stop :=
  fun address lower upper => (left address lower upper).trans (right address lower upper)

theorem Agrees.mono {memory other : Memory} {start stop first last : Nat}
    (agrees : memory.Agrees other start stop) (lower : start ≤ first) (upper : last ≤ stop) :
    memory.Agrees other first last :=
  fun address above below => agrees address (by omega) (by omega)

theorem readBytes_congr {memory other : Memory} {address count : Nat}
    (agrees : memory.Agrees other address (address + count)) :
    memory.readBytes address count = other.readBytes address count := by
  simp only [readBytes]
  apply List.map_congr_left
  intro index bound
  have inside := List.mem_range.mp bound
  exact agrees _ (by omega) (by omega)

theorem readNumber_congr {memory other : Memory} {address count : Nat}
    (agrees : memory.Agrees other address (address + count)) :
    memory.readNumber address count = other.readNumber address count := by
  rw [readNumber, readNumber, readBytes_congr agrees]

theorem readHeader_congr {memory other : Memory} {block : Nat}
    (agrees : memory.Agrees other block (block + BlockHeader.bytes)) :
    memory.readHeader block = other.readHeader block := by
  have size : BlockHeader.bytes = 16 := rfl
  have signature : memory.readNumber block 4 = other.readNumber block 4 :=
    readNumber_congr (agrees.mono (by omega) (by omega))
  have sizeClass : memory.readNumber (block + 4) 4 = other.readNumber (block + 4) 4 :=
    readNumber_congr (agrees.mono (by omega) (by omega))
  have length : memory.readNumber (block + 8) 8 = other.readNumber (block + 8) 8 :=
    readNumber_congr (agrees.mono (by omega) (by omega))
  rw [readHeader, readHeader, signature, sizeClass, length]

theorem agrees_writeBytes {memory : Memory} {address start stop : Nat} {bytes : List UInt8}
    (apart : stop ≤ address ∨ address + bytes.length ≤ start) :
    (memory.writeBytes address bytes).Agrees memory start stop := by
  intro other lower upper
  exact read_writeBytes_outside _ _ _ _ (by omega)

theorem readBytes_writeBytes (memory : Memory) (address : Nat) (bytes : List UInt8) :
    (memory.writeBytes address bytes).readBytes address bytes.length = bytes := by
  apply List.ext_getElem
  · simp
  · intro index _ bound
    rw [getElem_readBytes]
    exact read_writeBytes_inside _ _ _ _ bound

theorem read_fill {memory : Memory} {start count address : Nat} {value : UInt8}
    (lower : start ≤ address) (upper : address < start + count) :
    (memory.fill start value count).read address = value := by
  obtain ⟨index, rfl⟩ := Nat.exists_eq_add_of_le lower
  rw [fill_eq_writeBytes,
    read_writeBytes_inside _ _ _ _ (by rw [List.length_replicate]; omega), List.getElem_replicate]

theorem agrees_writeNumber {memory : Memory} {address count value start stop : Nat}
    (apart : stop ≤ address ∨ address + count ≤ start) :
    (memory.writeNumber address count value).Agrees memory start stop :=
  agrees_writeBytes (by simpa using apart)

theorem readNumber_writeNumber {memory : Memory} {address count value : Nat}
    (fits : value < Nat.pow 256 count) :
    (memory.writeNumber address count value).readNumber address count = value := by
  have stored := readBytes_writeBytes memory address (littleEndian count value)
  rw [length_littleEndian] at stored
  rw [readNumber, writeNumber, stored, ofLittleEndian_littleEndian, Nat.mod_eq_of_lt fits]

theorem agrees_writeHeader {memory : Memory} {block start stop : Nat} {header : BlockHeader}
    (apart : stop ≤ block ∨ block + BlockHeader.bytes ≤ start) :
    (memory.writeHeader block header).Agrees memory start stop := by
  have size : BlockHeader.bytes = 16 := rfl
  exact (agrees_writeNumber (by omega)).trans
    ((agrees_writeNumber (by omega)).trans (agrees_writeNumber (by omega)))

theorem readHeader_writeHeader {memory : Memory} {block : Nat} {header : BlockHeader}
    (fits : header.Fits) : (memory.writeHeader block header).readHeader block = header := by
  have signature : (memory.writeHeader block header).readNumber block 4 = header.signature := by
    rw [writeHeader, readNumber_congr (agrees_writeNumber (by omega)),
      readNumber_congr (agrees_writeNumber (by omega))]
    exact readNumber_writeNumber fits.signature
  have sizeClass : (memory.writeHeader block header).readNumber (block + 4) 4 =
      header.sizeClass := by
    rw [writeHeader, readNumber_congr (agrees_writeNumber (by omega))]
    exact readNumber_writeNumber fits.sizeClass
  have size : (memory.writeHeader block header).readNumber (block + 8) 8 = header.size :=
    readNumber_writeNumber fits.size
  rw [readHeader, signature, sizeClass, size]

end Memory

end PartitionBoot
