import PartitionBoot.Proofs.Image.TwoMoves

/-!
The addresses of an image. The place of a byte in memory is computed from the base that relative
addresses count from, its place in the image data from what was stripped in front of them, and the
distance of a move from the address in the headers; all three tell of the same byte.
-/

namespace PartitionBoot

namespace ImageContext

theorem offsetOf?_eq_some_iff {context : ImageContext} {rva : UInt32} {offset : Nat} :
    context.offsetOf? rva = some offset ↔ rva.toNat = context.headerAdjust.toNat + offset := by
  simp only [offsetOf?]
  split
  · rw [Option.some.injEq]
    omega
  · simp only [reduceCtorEq, false_iff]
    omega

end ImageContext

theorem ImageLayout.addressOf?_eq_some_iff {layout : ImageLayout} {rva : UInt32}
    {address : UInt64} : layout.addressOf? rva = some address ↔
      layout.trueBase.toNat + rva.toNat = address.toNat := by
  have bound := address.toNat_lt
  have limit : UInt64.size = 18446744073709551616 := rfl
  have sum : (layout.trueBase + rva.toUInt64).toNat =
      (layout.trueBase.toNat + rva.toNat) % 18446744073709551616 := by
    rw [UInt64.toNat_add, UInt32.toNat_toUInt64]
  simp only [addressOf?]
  split
  · rw [Option.some.injEq, ← UInt64.toNat_inj]
    omega
  · simp only [reduceCtorEq, false_iff]
    omega

namespace Image

open Fixup

variable {image later : Window} {dataAddress : UInt64} {context : ImageContext}
  {layout : ImageLayout} {rva : UInt32} {offset : Nat}

theorem computeLayout_imageAddress
    (laid : (computeLayout image dataAddress).result = .ok (context, layout)) :
    context.imageAddress = context.linkedAddress := by
  rw [computeLayout_base laid]
  rfl

theorem computeLayout_declaredBase
    (laid : (computeLayout image dataAddress).result = .ok (context, layout)) :
    layout.declaredBase = context.imageBase := by
  obtain ⟨_, _, _, _, rfl⟩ := computeLayout_ok_iff.mp laid
  rfl

theorem computeLayout_trueBase
    (laid : (computeLayout image dataAddress).result = .ok (context, layout)) :
    layout.trueBase = dataAddress - context.headerAdjust := by
  have linked := computeLayout_imageAddress laid
  obtain ⟨_, _, _, _, rfl⟩ := computeLayout_ok_iff.mp laid
  rw [linked, ImageContext.linkedAddress]
  grind

theorem computeLayout_sections
    (laid : (computeLayout image dataAddress).result = .ok (context, layout)) :
    layout.sectionTable.toNat + layout.sectionCount.toNat * sectionEntrySize ≤ image.size := by
  obtain ⟨_, _, inside, _, rfl⟩ := computeLayout_ok_iff.mp laid
  exact inside

theorem sectionEntry_ok
    (laid : (computeLayout image dataAddress).result = .ok (context, layout)) {index : Nat}
    (listed : index < layout.sectionCount.toNat) :
    ∃ entry, (sectionEntry image layout index).result = .ok entry := by
  have inside := computeLayout_sections laid
  have within := Nat.mul_le_mul_right sectionEntrySize (Nat.succ_le_of_lt listed)
  rw [Nat.succ_mul] at within
  have field (offset : Nat) (fits : offset + 4 ≤ sectionEntrySize) : ∃ value,
      Window.le32? { image with
        base := image.base + (layout.sectionTable.toNat + index * sectionEntrySize)
        size := sectionEntrySize } offset = some value :=
    ⟨_, by rw [Window.le32?_eq, if_pos fits]⟩
  obtain ⟨length, lengthRead⟩ := field 8 (by decide)
  obtain ⟨rva, rvaRead⟩ := field 12 (by decide)
  obtain ⟨flags, flagsRead⟩ := field 36 (by decide)
  simp only [sectionEntry, Report.bind_ok_iff, Report.require_ok_iff]
  exact ⟨_, _, Window.slice?_eq_some_iff.mpr ⟨by omega, rfl⟩, _, lengthRead, _, rvaRead, _,
    flagsRead, rfl⟩

theorem trueBase_add (laid : (computeLayout image dataAddress).result = .ok (context, layout))
    (placed : context.offsetOf? rva = some offset) :
    layout.trueBase + rva.toUInt64 = dataAddress + UInt64.ofNat offset := by
  have parts : rva.toUInt64 = context.headerAdjust + UInt64.ofNat offset := by
    rw [← UInt64.ofNat_toNat (x := context.headerAdjust), ← UInt64.ofNat_add,
      ← ImageContext.offsetOf?_eq_some_iff.mp placed, ← UInt32.toNat_toUInt64,
      UInt64.ofNat_toNat]
  rw [computeLayout_trueBase laid, parts]
  grind

/-- A byte of the image that has an address at all has it where the image data puts it. If the base
wraps below zero, such a byte has no address. -/
theorem addressOf?_toNat (laid : (computeLayout image dataAddress).result = .ok (context, layout))
    (placed : context.offsetOf? rva = some offset) {address : UInt64}
    (addressed : layout.addressOf? rva = some address) :
    address.toNat = dataAddress.toNat + offset := by
  have sum := ImageLayout.addressOf?_eq_some_iff.mp addressed
  have parts := ImageContext.offsetOf?_eq_some_iff.mp placed
  have base := congrArg UInt64.toNat (computeLayout_trueBase laid)
  have bound := address.toNat_lt
  have dataBound := dataAddress.toNat_lt
  simp only [UInt64.toNat_sub, Nat.reducePow] at base
  omega

theorem distance_placed (laid : (computeLayout image dataAddress).result = .ok (context, layout)) :
    distance (context.placed context.imageBase dataAddress) =
      layout.trueBase - layout.declaredBase := by
  rw [computeLayout_trueBase laid, computeLayout_declaredBase laid]
  simp only [distance, ImageContext.placed, ImageContext.linkedAddress]
  grind

theorem raised_address {field : Field} (wide : field.width = 8) {base distance rva : UInt64}
    (held : image.number field = (base + rva).toNat) :
    image.raised field distance.toNat = (base + distance + rva).toNat := by
  rw [Window.raised, held, wide]
  simp only [UInt64.toNat_add, Nat.pow_eq, Nat.reducePow]
  omega

theorem apply_relinks (laid : (computeLayout image dataAddress).result = .ok (context, layout))
    {page : UInt32} {raw : UInt16} (wide : kindOf raw = 10)
    (placed : context.offsetOf? (targetOf page raw) = some offset) {current : Window}
    {rva : UInt64} (held : current.le64? offset = some (layout.declaredBase + rva)) :
    ∃ moved, apply (context.placed context.imageBase dataAddress)
        (distance (context.placed context.imageBase dataAddress)) page raw current = .ok moved ∧
      moved.Sets current ⟨offset, 8⟩ (layout.trueBase + rva).toNat := by
  have kind : kindOf raw ≠ 0 ∧ kindOf raw ≠ 3 := by
    rw [wide]
    decide
  have target : (context.placed context.imageBase dataAddress).offsetOf? (targetOf page raw) =
      some offset := placed
  have inside : (⟨offset, 8⟩ : Field).span.stop ≤ current.size := Window.le64?_bound held
  obtain ⟨moved, stored, sets⟩ := Window.put?_sets inside (current.raised_lt ⟨offset, 8⟩
    (distance (context.placed context.imageBase dataAddress)).toNat)
  refine ⟨moved, ?_, ?_⟩
  · simp only [apply, if_neg kind.1, if_neg kind.2, if_pos wide, target, Option.bind_some,
      shift64?_eq, stored]
  · have base : layout.declaredBase + (layout.trueBase - layout.declaredBase) =
        layout.trueBase := by grind
    rwa [raised_address rfl (Window.number_of_le64? held), distance_placed laid, base] at sets

theorem movedTo?_relinks
    (laid : (computeLayout image dataAddress).result = .ok (context, layout))
    (separate : Separate context image) (moved : movedTo? image dataAddress = some later)
    {field : Field} (target : field ∈ targets context image) (wide : field.width = 8)
    {rva : UInt64} (held : image.number field = (layout.declaredBase + rva).toNat) :
    later.number field = (layout.trueBase + rva).toNat := by
  rw [(moved_of_movedTo? laid separate moved).1.raised field target, raised_address wide held,
    computeLayout_trueBase laid, computeLayout_declaredBase laid, ImageContext.linkedAddress]
  congr 1
  grind

/-- Wherever an image is laid out, relative addresses lead to the same byte whether its address is
computed or its offset; the distance of a move to that place is how far the base lies from the one
that was linked for, so that a moved word leads to the byte it led to before; and all entries of
the section table can be read. -/
theorem addresses_agree
    (laid : (computeLayout image dataAddress).result = .ok (context, layout)) :
    let placed : ImageContext := { context with imageAddress := dataAddress }
    (∀ rva offset, context.offsetOf? rva = some offset →
        layout.trueBase + rva.toUInt64 = dataAddress + UInt64.ofNat offset ∧
          ∀ address, layout.addressOf? rva = some address →
            address.toNat = dataAddress.toNat + offset) ∧
      distance placed = layout.trueBase - layout.declaredBase ∧
      (∀ page raw offset, kindOf raw = 10 → context.offsetOf? (targetOf page raw) = some offset →
        ∀ current : Window, ∀ rva : UInt32,
          current.le64? offset = some (layout.declaredBase + rva.toUInt64) →
          ∃ moved, apply placed (distance placed) page raw current = .ok moved ∧
            moved.Sets current ⟨offset, 8⟩ (layout.trueBase + rva.toUInt64).toNat) ∧
      (Separate context image → ∀ later, movedTo? image dataAddress = some later →
        ∀ field ∈ targets context image, field.width = 8 → ∀ rva : UInt32,
          image.number field = (layout.declaredBase + rva.toUInt64).toNat →
            later.number field = (layout.trueBase + rva.toUInt64).toNat) ∧
      ∀ index, index < layout.sectionCount.toNat →
        ∃ entry, (sectionEntry image layout index).result = .ok entry := by
  refine ⟨?_, distance_placed laid, ?_, ?_, ?_⟩
  · intro rva offset placed
    exact ⟨trueBase_add laid placed, fun address => addressOf?_toNat laid placed⟩
  · intro page raw offset wide placed current rva held
    exact apply_relinks laid wide placed held
  · intro separate later moved field target wide rva held
    exact movedTo?_relinks laid separate moved target wide held
  · intro index listed
    exact sectionEntry_ok laid listed

/-- A stripped image with 56 bytes less in front of it than its addresses count, linked for 0x1000.
It has one section and one word, which holds the address of the word. -/
def selfPointingImage : Window := Window.ofBytes <|
  [0x56, 0x5A, 0, 0, 1, 0, 96, 0] ++ littleEndian 8 0x88 ++ littleEndian 8 0x1000 ++
  littleEndian 4 0x90 ++ littleEndian 4 12 ++ littleEndian 8 0 ++
  (List.replicate 8 0 ++ littleEndian 4 8 ++ littleEndian 4 0x88 ++ List.replicate 24 0) ++
  littleEndian 8 0x1088 ++
  (littleEndian 4 0 ++ littleEndian 4 12 ++ littleEndian 2 0xA088 ++ littleEndian 2 0)

def selfPointingContext : ImageContext where
  imageAddress := 0x1038
  imageBase := 0x1000
  format := .te
  headerAdjust := 56
  imageBaseOffset := 16
  entryPoint := 0x88
  relocations := ⟨0x90, 12⟩
  relocationsStripped := false

/-- Moved so low that its base wraps below zero, the word still points at itself. -/
theorem addresses_agree_below_zero :
    ∃ layout later,
      (computeLayout selfPointingImage 0x20).result = .ok (selfPointingContext, layout) ∧
      layout.trueBase = 0xffffffffffffffe8 ∧ layout.addressOf? 0x88 = none ∧
      layout.trueBase + 0x88 = 0x20 + 80 ∧
      movedTo? selfPointingImage 0x20 = some later ∧
      selfPointingImage.number ⟨80, 8⟩ = 0x1088 ∧ later.number ⟨80, 8⟩ = 0x20 + 80 ∧
      ∃ entry, (sectionEntry selfPointingImage layout 0).result = .ok entry := by
  have laid : (computeLayout selfPointingImage 0x20).result =
      .ok (selfPointingContext, ⟨0x1000, 0xffffffffffffffe8, 40, 1⟩) := by decide +kernel
  obtain ⟨later, moved⟩ : ∃ later, movedTo? selfPointingImage 0x20 = some later :=
    Option.isSome_iff_exists.mp (by decide +kernel)
  have separate : Separate selfPointingContext selfPointingImage := by
    refine ⟨?_, ?_, ?_⟩ <;> decide +kernel
  obtain ⟨same, -, -, relinks, readable⟩ := addresses_agree laid
  have target : ⟨80, 8⟩ ∈ targets selfPointingContext selfPointingImage := by decide +kernel
  have held : selfPointingImage.number ⟨80, 8⟩ = 0x1088 := by decide +kernel
  refine ⟨_, later, laid, rfl, by decide, (same 0x88 80 (by decide)).1, moved, held, ?_,
    readable 0 (by decide)⟩
  exact (relinks separate later moved ⟨80, 8⟩ target rfl 0x88 held).trans (by decide)

end Image

end PartitionBoot
