import PartitionBoot.Proofs.Boot.Started
import PartitionBoot.Proofs.DeviceTree.SameAnswers
import PartitionBoot.Proofs.HandOff.SameAnswers
import PartitionBoot.Proofs.HandOff.Table

/-!
Readers that widen their view of memory by what they have read. A reader at an address looks at a
magic number, at a header only where the number matches, and at as many bytes behind it as the
header declares. It comes to the same as a reader of any longer slice at the address, and nothing
behind its view has a part in what it answers.
-/

namespace PartitionBoot

open Report (alike_bind alike_bind_eq alike_eq alike_pure alike_require)

variable {memory other : Memory} {base size : Nat} {address : UInt64}

/-- How many bytes a reader looks at: those of a magic number, and where it matches those of a
header and all that the header declares. -/
def viewSize (matched : Prop) [Decidable matched] (declared header : Nat) : Nat :=
  if matched then max declared header else 4

section viewSize

variable {matched : Prop} [Decidable matched] {declared header : Nat}

theorem four_le_viewSize (wide : 4 ≤ header) : 4 ≤ viewSize matched declared header := by
  rw [viewSize]
  split
  · exact Nat.le_trans wide (Nat.le_max_right _ _)
  · exact Nat.le_refl 4

theorem viewSize_le (wide : 4 ≤ header) :
    viewSize matched declared header ≤ max declared header := by
  rw [viewSize]
  split
  · exact Nat.le_refl _
  · exact Nat.le_trans wide (Nat.le_max_right _ _)

end viewSize

namespace Window

theorem slice?_window {offset count : Nat} (memory : Memory) (base : Nat)
    (inside : offset + count ≤ size) : (memory.window base size).slice? offset count =
      some (memory.window (base + offset) count) :=
  slice?_eq_some_iff.mpr ⟨inside, rfl⟩

theorem be32?_window {offset : Nat} (memory : Memory) (base : Nat) (inside : offset + 4 ≤ size) :
    (memory.window base size).be32? offset =
      some (UInt32.ofNat (ofBigEndian (memory.readBytes (base + offset) 4))) := by
  rw [be32?, slice?_window memory base inside]
  rfl

theorem sameBytes_window (agrees : other.Agrees memory base (base + size)) :
    (memory.window base size).SameBytes (other.window base size) :=
  (Memory.readBytes_congr agrees).symm

end Window

namespace HandOff

variable {blob also : Window}

theorem ofWindow_alike (same : blob.SameBytes also) :
    Report.Alike SameBlob (ofWindow blob) (ofWindow also) := by
  simp only [ofWindow, same.le32?_eq, same.size_eq]
  refine alike_bind_eq (alike_eq rfl) fun found => ?_
  split
  · exact .error rfl rfl
  · refine alike_bind_eq (alike_eq rfl) fun version => ?_
    refine alike_bind_eq (alike_eq rfl) fun blobSize => ?_
    refine alike_bind_eq (alike_eq rfl) fun descriptorSize => ?_
    refine alike_bind_eq (alike_eq rfl) fun descriptorCount => ?_
    refine alike_bind_eq (alike_eq rfl) fun descriptorOffset => ?_
    split
    · exact .error rfl rfl
    · rename_i room
      simp only [Bool.or_eq_true, decide_eq_true_eq, not_or, Nat.not_lt] at room
      exact alike_pure ⟨rfl, same.front (by rw [same.size_eq]; exact room.2)⟩

/-- How many bytes a reader of a hand-off at an address looks at. -/
def reach (memory : Memory) (address : UInt64) : Nat :=
  let header := headerOf (memory.window address.toNat headerSize)
  viewSize (header.signature = signature) header.blobSize.toNat headerSize

theorem ofWindow_unsigned {found : UInt32} (read : blob.le32? 0 = some found)
    (unlike : found ≠ signature) :
    (ofWindow blob).result = .error (.manifestMissing (.handOffMagic found)) := by
  simp only [ofWindow, read, Report.result_bind, Report.result_require, Except.bind]
  rw [if_pos (bne_iff_ne.mpr unlike)]
  rfl

theorem four_le_reach (memory : Memory) (address : UInt64) : 4 ≤ reach memory address :=
  four_le_viewSize (by decide)

theorem ofWindow_window
    (enough : max (headerOf (memory.window base headerSize)).blobSize.toNat headerSize ≤ size) :
    (ofWindow (memory.window base size)).result =
      if (headerOf (memory.window base headerSize)).signature ≠ signature then
        .error (.manifestMissing (.handOffMagic
          (headerOf (memory.window base headerSize)).signature))
      else if (headerOf (memory.window base headerSize)).blobSize.toNat < headerSize then
        .error (.manifestMalformed .outOfBounds)
      else .ok (framed (memory.window base headerSize)) := by
  have least : fieldsSize ≤ headerSize := by decide
  have room : ((headerOf (memory.window base headerSize)).blobSize.toNat < headerSize ∨
      size < (headerOf (memory.window base headerSize)).blobSize.toNat) ↔
        (headerOf (memory.window base headerSize)).blobSize.toNat < headerSize := by
    omega
  refine (ofWindow_result (show fieldsSize ≤ size by omega)).trans ?_
  refine ite_congr rfl (fun _ => rfl) fun _ => ?_
  exact ite_congr (propext room) (fun _ => rfl) fun _ => rfl

theorem ofAddress_result (present : address ≠ 0) (enough : reach memory address ≤ size) :
    (ofAddress memory address).result = (ofWindow (memory.window address.toNat size)).result := by
  -- Windows at the address spell the same header, whatever their sizes.
  have signed (size : Nat) (short : 4 ≤ size) :
      (memory.window address.toNat size).le32? 0 =
        some (headerOf (memory.window address.toNat headerSize)).signature :=
    Window.le32?_inside short
  have least := four_le_reach memory address
  simp only [ofAddress, if_neg present, signed 4 (Nat.le_refl 4), Report.result_bind,
    Report.result_require, Except.bind]
  by_cases same : (headerOf (memory.window address.toNat headerSize)).signature = signature
  · rw [reach, viewSize, if_pos same] at enough
    have blobSize : (memory.window address.toNat headerSize).le32? 8 =
        some (headerOf (memory.window address.toNat headerSize)).blobSize :=
      Window.le32?_inside (show 8 + 4 ≤ headerSize by decide)
    rw [if_neg (by simp [same]), Report.result_bind, Report.result_require, blobSize]
    exact (ofWindow_window (Nat.le_refl _)).trans (ofWindow_window enough).symm
  · rw [if_pos (bne_iff_ne.mpr same), ofWindow_unsigned (signed 4 (Nat.le_refl 4)) same,
      ofWindow_unsigned (signed size (by omega)) same]

theorem reach_congr (agrees : other.Agrees memory address.toNat
    (address.toNat + reach memory address)) : reach other address = reach memory address := by
  have word (offset : Nat) (inside : offset + 4 ≤ reach memory address) :
      (other.window address.toNat headerSize).number ⟨offset, 4⟩ =
        (memory.window address.toNat headerSize).number ⟨offset, 4⟩ :=
    Memory.readNumber_congr (agrees.mono (Nat.le_add_right _ _)
      (by dsimp only [Memory.window]; omega))
  have signed : (headerOf (other.window address.toNat headerSize)).signature =
      (headerOf (memory.window address.toNat headerSize)).signature :=
    congrArg UInt32.ofNat (word 0 (four_le_reach memory address))
  by_cases same : (headerOf (memory.window address.toNat headerSize)).signature = signature
  · have whole : headerSize ≤ reach memory address := by
      rw [reach, viewSize, if_pos same]
      exact Nat.le_max_right _ _
    have blobSize : (headerOf (other.window address.toNat headerSize)).blobSize =
        (headerOf (memory.window address.toNat headerSize)).blobSize :=
      congrArg UInt32.ofNat (word 8 (Nat.le_trans (by decide) whole))
    simp only [reach, signed, blobSize]
  · simp only [reach, viewSize, signed, if_neg same]

theorem ofAddress_alike (present : address ≠ 0) (agrees : other.Agrees memory address.toNat
    (address.toNat + reach memory address)) :
    Report.Alike SameBlob (ofAddress memory address) (ofAddress other address) := by
  refine (ofWindow_alike (Window.sameBytes_window agrees)).of_result_eq ?_ ?_
  · exact (ofAddress_result present (Nat.le_refl _)).symm
  · exact (ofAddress_result present (Nat.le_of_eq (reach_congr agrees))).symm

end HandOff

namespace DeviceTree

variable {blob also : Window}

theorem ofWindow_alike (same : blob.SameBytes also) :
    Report.Alike SameBlocks (ofWindow blob) (ofWindow also) := by
  simp only [ofWindow, same.be32?_eq]
  refine alike_bind_eq (alike_eq rfl) fun found => ?_
  split
  · exact .error rfl rfl
  · refine alike_bind_eq (alike_eq rfl) fun totalSize => ?_
    refine alike_bind_eq (alike_eq rfl) fun tokensOffset => ?_
    refine alike_bind_eq (alike_eq rfl) fun namesOffset => ?_
    refine alike_bind_eq (alike_eq rfl) fun namesSize => ?_
    refine alike_bind_eq (alike_eq rfl) fun tokensSize => ?_
    refine alike_bind (alike_require (same.slice? _ _) _) fun whole again held => ?_
    refine alike_bind (alike_require (held.slice? _ _) _) fun tokens others equal => ?_
    refine alike_bind (alike_require (held.slice? _ _) _) fun names more alike => ?_
    exact alike_pure ⟨equal, alike⟩

def totalSize (memory : Memory) (address : UInt64) : UInt32 :=
  UInt32.ofNat (ofBigEndian (memory.readBytes (address.toNat + 4) 4))

def reach (memory : Memory) (address : UInt64) : Nat :=
  viewSize ((memory.window address.toNat 4).be32? 0 = some magic) (totalSize memory address).toNat
    headerSize

theorem four_le_reach (memory : Memory) (address : UInt64) : 4 ≤ reach memory address :=
  four_le_viewSize (by decide)

theorem ofWindow_unsigned {found : UInt32} (read : blob.be32? 0 = some found)
    (unlike : found ≠ magic) :
    (ofWindow blob).result = .error (.manifestMissing (.manifestMagic found)) := by
  simp only [ofWindow, read, Report.result_bind, Report.result_require, Except.bind]
  rw [if_pos (bne_iff_ne.mpr unlike)]
  rfl

/-- Two blobs are read alike whose headers and first bytes, as far as the size in them, are the same
part of a memory. -/
theorem ofWindow_congr
    (words : ∀ offset, offset + 4 ≤ headerSize → blob.be32? offset = also.be32? offset)
    (front : ∀ size, also.be32? 4 = some size →
      blob.slice? 0 size.toNat = also.slice? 0 size.toNat) :
    (ofWindow blob).result = (ofWindow also).result := by
  simp only [ofWindow, words 0 (by decide), words 4 (by decide), words 8 (by decide),
    words 12 (by decide), words 32 (by decide), words 36 (by decide), Report.result_bind,
    Report.result_require]
  cases also.be32? 0 with
  | none => rfl
  | some found =>
      simp only [Except.bind]
      split
      · rfl
      · cases total : also.be32? 4 with
        | none => rfl
        | some size =>
            simp only [Report.result_bind, Report.result_require, Report.result_pure, Except.bind,
              front size total]

theorem ofAddress_result (enough : reach memory address ≤ size) :
    (ofAddress memory address).result = (ofWindow (memory.window address.toNat size)).result := by
  have least := four_le_reach memory address
  have tagged : (memory.window address.toNat size).be32? 0 =
      (memory.window address.toNat 4).be32? 0 := by
    rw [Window.be32?_window memory _ (Nat.le_trans least enough),
      Window.be32?_window memory _ (Nat.le_refl 4)]
  by_cases same : (memory.window address.toNat 4).be32? 0 = some magic
  · rw [reach, viewSize, if_pos same] at enough
    have total : (memory.window address.toNat headerSize).be32? 4 =
        some (totalSize memory address) :=
      Window.be32?_window memory _ (by decide)
    rw [ofAddress, if_neg (by simp [same]), Report.result_bind, Report.result_require, total]
    refine ofWindow_congr (fun offset inside => ?_) fun declared read => ?_
    · rw [Window.be32?_window memory _ (by omega), Window.be32?_window memory _ (by omega)]
    · have width : headerSize = 40 := rfl
      rw [Window.be32?_window memory _ (by omega), Option.some.injEq] at read
      rw [← read, ← totalSize, Window.slice?_window memory _ (by omega),
        Window.slice?_window memory _ (by omega)]
  · rw [ofAddress, if_pos (bne_iff_ne.mpr same)]
    have read := Window.be32?_window memory address.toNat (Nat.le_refl 4)
    rw [read, Option.some.injEq] at same
    rw [ofWindow_unsigned read same, ofWindow_unsigned (tagged.trans read) same]

theorem reach_congr (agrees : other.Agrees memory address.toNat
    (address.toNat + reach memory address)) : reach other address = reach memory address := by
  have least := four_le_reach memory address
  have tag : (other.window address.toNat 4).be32? 0 = (memory.window address.toNat 4).be32? 0 :=
    (Window.sameBytes_window (agrees.mono (Nat.le_refl _) (by omega))).symm.be32?_eq 0
  by_cases same : (memory.window address.toNat 4).be32? 0 = some magic
  · have whole : headerSize ≤ reach memory address := by
      rw [reach, viewSize, if_pos same]
      exact Nat.le_max_right _ _
    have width : headerSize = 40 := rfl
    have total : totalSize other address = totalSize memory address := by
      rw [totalSize, totalSize, Memory.readBytes_congr (agrees.mono (by omega) (by omega))]
    simp only [reach, tag, total]
  · simp only [reach, viewSize, tag, if_neg same]

theorem ofAddress_alike (agrees : other.Agrees memory address.toNat
    (address.toNat + reach memory address)) :
    Report.Alike SameBlocks (ofAddress memory address) (ofAddress other address) := by
  refine (ofWindow_alike (Window.sameBytes_window agrees)).of_result_eq ?_ ?_
  · exact (ofAddress_result (Nat.le_refl _)).symm
  · exact (ofAddress_result (Nat.le_of_eq (reach_congr agrees))).symm

end DeviceTree

/-- A hand-off and a tree at an address are those of every slice there that is long enough for the
size that each declares and for its header, and a reader of either looks at four bytes where they
are not its magic number. In another memory with the same bytes so far, both readers come to the
same failure, or to a hand-off and a tree that answer alike. -/
theorem staged_readers (memory : Memory) {address : UInt64} (present : address ≠ 0) :
    let declared := (HandOff.headerOf (memory.window address.toNat HandOff.headerSize)).blobSize
    (HandOff.reach memory address ≤ max declared.toNat HandOff.headerSize ∧
      (∀ size, HandOff.reach memory address ≤ size →
        (HandOff.ofAddress memory address).result =
          (HandOff.ofWindow (memory.window address.toNat size)).result) ∧
      ∀ other : Memory,
        other.Agrees memory address.toNat (address.toNat + HandOff.reach memory address) →
        Report.Alike HandOff.SameAnswers (HandOff.ofAddress memory address)
          (HandOff.ofAddress other address)) ∧
    (DeviceTree.reach memory address ≤
        max (DeviceTree.totalSize memory address).toNat DeviceTree.headerSize ∧
      (∀ size, DeviceTree.reach memory address ≤ size →
        (DeviceTree.ofAddress memory address).result =
          (DeviceTree.ofWindow (memory.window address.toNat size)).result) ∧
      ∀ other : Memory,
        other.Agrees memory address.toNat (address.toNat + DeviceTree.reach memory address) →
        Report.Alike DeviceTree.SameAnswers (DeviceTree.ofAddress memory address)
          (DeviceTree.ofAddress other address)) := by
  intro declared
  refine ⟨⟨viewSize_le (by decide), ?_, ?_⟩, viewSize_le (by decide), ?_, ?_⟩
  · exact fun size enough => HandOff.ofAddress_result present enough
  · exact fun other agrees =>
      (HandOff.ofAddress_alike present agrees).mono fun _ _ same => same.answers
  · exact fun size enough => DeviceTree.ofAddress_result enough
  · exact fun other agrees =>
      (DeviceTree.ofAddress_alike agrees).mono fun _ _ same => same.answers

theorem Memory.agrees_write (memory : Memory) (start stop : Nat) (value : UInt8) :
    (memory.write stop value).Agrees memory start stop := by
  intro address _ below
  rw [Memory.read_write, if_neg (Nat.ne_of_gt below)]

open Boot in
theorem bootable_hand_off_read :
    (0x20000 : UInt64) ≠ 0 ∧ HandOff.reach bootable.memory 0x20000 = 64 ∧
      DeviceTree.reach bootable.memory 0x20000 = 4 ∧
      (HandOff.ofAddress bootable.memory 0x20000 >>= HandOff.manifestAddress).result =
        .ok 0x30000 ∧
      (HandOff.ofAddress bootable.memory 0x20000).result =
        (HandOff.ofWindow (bootable.memory.window 0x20000 100)).result ∧
      (DeviceTree.ofAddress bootable.memory 0x20000).result =
        (DeviceTree.ofWindow (bootable.memory.window 0x20000 4)).result ∧
      Report.Alike HandOff.SameAnswers (HandOff.ofAddress bootable.memory 0x20000)
        (HandOff.ofAddress (bootable.memory.write 0x20040 1) 0x20000) ∧
      (0x30000 : UInt64) ≠ 0 ∧ HandOff.reach bootable.memory 0x30000 = 4 ∧
      DeviceTree.reach bootable.memory 0x30000 = 363 ∧
      (HandOff.ofAddress bootable.memory 0x30000).result =
        (HandOff.ofWindow (bootable.memory.window 0x30000 4)).result ∧
      (∃ tree, (DeviceTree.ofAddress bootable.memory 0x30000).result = .ok tree ∧
        (DeviceTree.ofWindow (bootable.memory.window 0x30000 400)).result = .ok tree) ∧
      Report.Alike DeviceTree.SameAnswers (DeviceTree.ofAddress bootable.memory 0x30000)
        (DeviceTree.ofAddress (bootable.memory.write 0x3016b 1) 0x30000) := by
  have present : (0x20000 : UInt64) ≠ 0 := by decide
  have blob : HandOff.reach bootable.memory 0x20000 = 64 := by decide +kernel
  have none : DeviceTree.reach bootable.memory 0x20000 = 4 := by decide +kernel
  have behind : (0x30000 : UInt64) ≠ 0 := by decide
  have unsigned : HandOff.reach bootable.memory 0x30000 = 4 := by decide +kernel
  have manifest : DeviceTree.reach bootable.memory 0x30000 = 363 := by decide +kernel
  obtain ⟨⟨_, slices, copies⟩, _, others, _⟩ := staged_readers bootable.memory present
  rw [blob] at slices copies
  rw [none] at others
  obtain ⟨⟨_, fronts, _⟩, _, trees, again⟩ := staged_readers bootable.memory behind
  rw [unsigned] at fronts
  rw [manifest] at trees again
  refine ⟨present, blob, none, ?_, slices 100 (by decide), others 4 (Nat.le_refl 4), ?_, behind,
    unsigned, manifest, fronts 4 (Nat.le_refl 4), ?_, ?_⟩
  · exact eq_of_toOption (by decide +kernel) (by decide +kernel)
  · exact copies _ (Memory.agrees_write _ 0x20000 0x20040 1)
  · cases read : (DeviceTree.ofAddress bootable.memory 0x30000).result with
    | error failure =>
        have accepted : (DeviceTree.ofAddress bootable.memory 0x30000).result.toOption.isSome := by
          decide +kernel
        rw [read] at accepted
        cases accepted
    | ok tree => exact ⟨tree, rfl, (trees 400 (by decide)).symm.trans read⟩
  · exact again _ (Memory.agrees_write _ 0x30000 0x3016b 1)

end PartitionBoot
