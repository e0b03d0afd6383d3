import PartitionBoot.Proofs.Image.Refusals
import PartitionBoot.Proofs.Image.Requests
import PartitionBoot.Proofs.Image.TwoMoves

/-!
Images without a relocation table. Nothing has to be shifted when such an image is moved, only the
address in its headers changes. In a stripped image the empty table has an address in front of the
data, which a move takes for one outside of the image.
-/

namespace PartitionBoot

/-- The image may be moved, and its directory gives an empty table. -/
structure ImageContext.Tableless (context : ImageContext) : Prop where
  movable : context.relocationsStripped = false
  empty : context.relocations = ⟨0, 0⟩

namespace Image

variable {image : Window} {parsed : Parsed} {context : ImageContext} {layout : ImageLayout}
  {address : UInt64}

/-! The field of the linked address lies in the image. -/

theorem parseTe_base (read : (parseTe image).result = .ok parsed) :
    (Fixup.baseField parsed.context).span.stop ≤ image.size := by
  simp only [parseTe, Report.bind_ok_iff, Report.require_ok_iff] at read
  obtain ⟨header, cut, _, _, read⟩ := read
  have whole : 0 + teHeaderSize ≤ image.size := Window.slice?_bound cut
  have width : teHeaderSize = 40 := rfl
  split at read
  · cases read
  · simp only [Report.bind_ok_iff] at read
    obtain ⟨_, _, _, _, _, _, _, _, read⟩ := read
    cases read
    simp only [Fixup.baseField, Fixup.baseWidth, Field.span]
    omega

theorem parseOptional_base {optional baseOffset : Nat} {format : ImageFormat} {base : UInt64}
    {table : Directory}
    (read : (parseOptional image optional).result = .ok (format, base, baseOffset, table)) :
    baseOffset + Fixup.baseWidth format ≤ image.size := by
  simp only [parseOptional, Report.bind_ok_iff] at read
  obtain ⟨magic, _, read⟩ := read
  split at read
  · simp only [Report.bind_ok_iff, Report.require_ok_iff] at read
    obtain ⟨_, baseRead, _, _, read⟩ := read
    cases read
    exact Window.le64?_bound baseRead
  · split at read
    · simp only [Report.bind_ok_iff, Report.require_ok_iff] at read
      obtain ⟨_, baseRead, _, _, read⟩ := read
      cases read
      exact Window.le32?_bound baseRead
    · cases read

theorem parsePe_base (read : (parsePe image).result = .ok parsed) :
    (Fixup.baseField parsed.context).span.stop ≤ image.size := by
  simp only [parsePe, Report.bind_ok_iff] at read
  obtain ⟨_, _, read⟩ := read
  split at read
  · cases read
  · simp only [Report.bind_ok_iff] at read
    obtain ⟨_, _, _, _, _, _, ⟨format, base, offset, table⟩, optional, _, _, read⟩ := read
    split at read
    · cases read
    · cases read
      exact parseOptional_base optional

theorem computeLayout_baseField
    (laid : (computeLayout image address).result = .ok (context, layout)) :
    (Fixup.baseField context).span.stop ≤ image.size := by
  obtain ⟨parsed, read, _, rfl, _⟩ := computeLayout_ok_iff.mp laid
  simp only [parseHeaders, Report.bind_ok_iff] at read
  obtain ⟨_, _, read⟩ := read
  split at read
  · exact parseTe_base read
  · split at read
    · exact parsePe_base read
    · cases read

end Image

namespace Fixup

variable {context : ImageContext} {image : Window} {later : Window} {delta : UInt64}

/-- The move went well, and it changed the address in the headers and nothing else. -/
structure Rebased (context : ImageContext) (image : Window) (outcome : Outcome) : Prop where
  done : outcome.result = .ok 0
  sets : outcome.image.Sets image (baseField context)
    ((context.imageBase + distance context).toNat % Nat.pow 256 (baseField context).width)

theorem table?_empty (bare : context.Tableless) (image : Window) : table? context image =
    if context.headerAdjust = 0 then some ⟨0, 0⟩ else none := by
  have first : context.headerAdjust.toNat ≤ (0 : UInt32).toNat ↔ context.headerAdjust = 0 := by
    rw [← UInt64.toNat_inj]
    exact Nat.le_zero
  rw [table?, bare.empty, ImageContext.offsetOf?]
  simp only [first]
  split
  · rename_i full
    rw [full]
    rfl
  · rfl

theorem targets_empty (bare : context.Tableless) (image : Window) : targets context image = [] := by
  rw [targets, table?_empty bare]
  split
  · rfl
  · rename_i table placed
    split at placed
    · cases placed
      rw [items_full (by decide)]
      rfl
    · cases placed

theorem separate_of_empty (bare : context.Tableless) (image : Window) :
    Separate context image := by
  refine ⟨?_, ?_, ?_⟩ <;> simp [targets_empty bare]

theorem verdict_empty (bare : context.Tableless) (full : context.headerAdjust = 0)
    (inside : (baseField context).span.stop ≤ image.size) : verdict context image = .ok 0 := by
  rw [verdict, table?_empty bare, if_pos full]
  simp only [items_full (show ¬ 0 + blockHeaderSize ≤ 0 by decide), List.find?_nil, if_pos inside]
  rfl

theorem Moved.sets (moved : Moved context delta image later)
    (none : targets context image = []) :
    later.Sets image (baseField context)
      ((context.imageBase + delta).toNat % Nat.pow 256 (baseField context).width) where
  follows := moved.follows
  stored := moved.imageBase
  kept offset outside := by
    refine moved.kept offset ?_ outside
    rw [none]
    exact fun _ impossible => absurd impossible (List.not_mem_nil)

end Fixup

namespace Image

open Fixup

variable {σ : Type} {image : Window} {context : ImageContext} {layout : ImageLayout}
  {address elsewhere : UInt64}

/-! What moving an image without a table comes to. -/

theorem tableless_placed (bare : context.Tableless) (elsewhere : UInt64) :
    (context.placed context.imageBase elsewhere).Tableless :=
  ⟨bare.movable, bare.empty⟩

theorem relocate_rebased (laid : (computeLayout image address).result = .ok (context, layout))
    (bare : context.Tableless) (elsewhere : UInt64)
    (kept : context.headerAdjust = 0 ∨ elsewhere = context.linkedAddress) :
    Rebased { context with imageAddress := elsewhere } image
      (relocate { context with imageAddress := elsewhere } image) := by
  by_cases away : elsewhere = context.linkedAddress
  · have still : distance (context.placed context.imageBase elsewhere) = 0 :=
      distance_placed_eq_zero_iff.mpr away
    have sets := (Moved.still (imageBase_held laid)).sets (targets_empty bare image)
    rw [← still] at sets
    have unmoved : relocate (context.placed context.imageBase elsewhere) image =
        ⟨image, .ok 0⟩ := by
      rw [relocate, if_pos still]
    constructor
    · exact congrArg Outcome.result unmoved
    · rw [show relocate { context with imageAddress := elsewhere } image = _ from unmoved]
      exact sets
  · have there := tableless_placed bare elsewhere
    obtain ⟨told, moved⟩ := relocate_eq_verdict image (mt distance_placed_eq_zero_iff.mp away)
      there.movable (separate_of_empty there image)
    have inside := computeLayout_baseField laid
    have fine := verdict_empty there (kept.resolve_right away) inside
    exact ⟨told.trans fine, (moved 0 fine).sets (targets_empty there image)⟩

theorem relocate_lost (bare : context.Tableless) (image : Window)
    (stripped : context.headerAdjust ≠ 0) (away : elsewhere ≠ context.linkedAddress) :
    relocate { context with imageAddress := elsewhere } image =
      ⟨image, .error (.outOfBounds 0)⟩ := by
  have there := tableless_placed bare elsewhere
  have outside : table? (context.placed context.imageBase elsewhere) image = none :=
    (table?_empty there image).trans (if_neg stripped)
  have lost := relocate_eq image (mt distance_placed_eq_zero_iff.mp away) there.movable
  rw [outside, there.empty] at lost
  exact lost

section Load

variable {permissions : PagePermissions σ} {headerPageSize : UInt64} {memory : Memory}
  {volume : UInt64} {size : Nat} {found : Survey} {outside : σ} {error : RelocationError}

theorem fixups_result (context : ImageContext) (image : Window) (state : σ) :
    (Relocator.fixups.relocate context image state).1.result =
      (relocate context image).result.map fun _ => () := by
  simp only [Relocator.fixups]
  cases (relocate context image).result with
  | error error => rfl
  | ok applied =>
      dsimp only
      split <;> rfl

theorem load_halfMoved_iff (surveyed : found.Of (memory.window volume.toNat size) volume) :
    ((load permissions .fixups headerPageSize volume size).outcome ⟨memory, outside⟩).1 =
        .error (.halfMoved error) ↔
      found.Addressed ∧ found.Displaced ∧
        (∃ middle, permissions.Grants (found.preparation headerPageSize) outside middle) ∧
        (relocate found.placed found.image).result = .error error := by
  rcases permissions.grants_or_refuses (found.preparation headerPageSize) outside with
    ⟨middle, granted⟩ | ⟨before, asked, after, refusal, refused, split, refuses⟩
  · by_cases addressed : found.Addressed
    case neg =>
      rw [load_unaddressed surveyed granted addressed]
      simp [addressed]
    by_cases displaced : found.Displaced
    case neg =>
      rw [load_inPlace surveyed granted addressed displaced]
      simp [displaced]
    have told := fixups_result found.placed found.image middle
    rcases moved : Relocator.fixups.relocate found.placed found.image middle
      with ⟨report, later, reached⟩
    rw [moved] at told
    cases result : (relocate found.placed found.image).result with
    | error failure =>
        rw [result] at told
        rw [load_halfMoved surveyed granted addressed displaced moved told]
        simp only [Except.error.injEq, Stop.halfMoved.injEq, addressed, displaced, true_and]
        exact ⟨fun same => ⟨⟨middle, granted⟩, same⟩, And.right⟩
    | ok applied =>
        rw [result] at told
        refine iff_of_false (fun stuck => ?_) (fun ⟨_, _, _, failed⟩ => by cases failed)
        rcases permissions.answer_cases (found.locking headerPageSize) reached with
          ⟨last, locked⟩ | ⟨refusal, last, refuses⟩
        · rw [load_moved surveyed granted addressed displaced moved told locked] at stuck
          cases stuck
        · rw [load_unlocked surveyed granted addressed displaced moved told refuses] at stuck
          cases stuck
  · rw [load_refused surveyed split refuses]
    refine iff_of_false (fun stuck => by cases stuck) ?_
    rintro ⟨_, _, ⟨middle, granted⟩, _⟩
    have all := PagePermissions.requestAll_granted granted
    rw [split, PagePermissions.requestAll_refused refuses] at all
    cases all

end Load

/-- An image whose table is empty is moved by changing the address in its headers, except for a
stripped one whose headers left a gap: its empty table counts as outside of the image, so that the
move fails and leaves the image as it was. A load that comes so far ends with the image half moved;
no other load of an image without a table ends like this. -/
theorem empty_table_moves (laid : (computeLayout image address).result = .ok (context, layout))
    (bare : context.Tableless) (elsewhere : UInt64) :
    let outcome := relocate { context with imageAddress := elsewhere } image
    let lost : Prop := context.headerAdjust ≠ 0 ∧ elsewhere ≠ context.linkedAddress
    (¬ lost → Rebased { context with imageAddress := elsewhere } image outcome) ∧
      (lost → outcome = ⟨image, .error (.outOfBounds 0)⟩) ∧
      (context.format ≠ .te → ¬ lost) ∧
      ∃ there, (computeLayout image elsewhere).result = .ok (context, there) ∧
        ∀ {σ : Type} (permissions : PagePermissions σ) (headerPageSize volume : UInt64) (size : Nat)
          (memory : Memory) (outside : σ),
          let found : Survey := ⟨⟨elsewhere, image⟩, context, there⟩
          found.Of (memory.window volume.toNat size) volume → ∀ error,
            ((load permissions .fixups headerPageSize volume size).outcome
                ⟨memory, outside⟩).1 = .error (.halfMoved error) ↔
              lost ∧ error = .outOfBounds 0 ∧ found.Addressed ∧
                ∃ middle, permissions.Grants (found.preparation headerPageSize) outside middle := by
  intro outcome lost
  have rebased (kept : ¬ lost) :
      Rebased { context with imageAddress := elsewhere } image outcome := by
    refine relocate_rebased laid bare elsewhere ?_
    by_contra neither
    rw [not_or] at neither
    exact kept neither
  have failed (strays : lost) : outcome = ⟨image, .error (.outOfBounds 0)⟩ :=
    relocate_lost bare image strays.1 strays.2
  refine ⟨rebased, failed, fun full strays => strays.1 (computeLayout_headerAdjust laid full), ?_⟩
  obtain ⟨parsed, read, inside, rfl, _⟩ := computeLayout_ok_iff.mp laid
  refine ⟨_, computeLayout_ok_iff.mpr ⟨parsed, read, inside, rfl, rfl⟩, ?_⟩
  intro σ permissions headerPageSize volume size memory outside found surveyed error
  rw [load_halfMoved_iff surveyed]
  by_cases strays : lost
  · have ended : (relocate found.placed found.image).result = .error (.outOfBounds 0) :=
      congrArg Outcome.result (failed strays)
    have displaced : found.Displaced := fun same => strays.2 same.symm
    rw [ended]
    simp only [strays, displaced, true_and, Except.error.injEq]
    constructor
    · rintro ⟨addressed, granted, rfl⟩
      exact ⟨rfl, addressed, granted⟩
    · rintro ⟨rfl, addressed, granted⟩
      exact ⟨addressed, granted, rfl⟩
  · have ended : (relocate found.placed found.image).result = .ok 0 := (rebased strays).done
    rw [ended]
    simp [strays]

section Example

/-- A stripped image without a table that is linked for `0x1000`. Of its headers 96 bytes were
replaced with 40. -/
def gappedImage : List UInt8 :=
  littleEndian 2 teSignature.toNat ++ [0, 0, 0, 0] ++ littleEndian 2 96 ++ littleEndian 8 0 ++
    littleEndian 8 0x1000 ++ List.replicate 16 0

def gappedContext : ImageContext where
  imageAddress := 0x1038
  imageBase := 0x1000
  format := .te
  headerAdjust := 56
  imageBaseOffset := 16
  entryPoint := 0
  relocations := ⟨0, 0⟩
  relocationsStripped := false

def fullImage : List UInt8 :=
  littleEndian 2 stubSignature.toNat ++ List.replicate 58 0 ++ littleEndian 4 64 ++
    (littleEndian 4 peSignature.toNat ++ List.replicate 16 0 ++ littleEndian 2 144 ++
      List.replicate 2 0) ++
    (littleEndian 2 pe32Magic.toNat ++ List.replicate 26 0 ++ littleEndian 4 0x1000 ++
      List.replicate 112 0)

def fullContext : ImageContext where
  imageAddress := 0x1000
  imageBase := 0x1000
  format := .pe32
  headerAdjust := 0
  imageBaseOffset := 116
  entryPoint := 0
  relocations := ⟨0, 0⟩
  relocationsStripped := false

def gappedVolume : Volume.FlatVolume where
  lead := List.replicate 32 0
  attributes := [0xff, 0xfe, 4, 0]
  checksum := [0, 0]
  revision := [0, 2]
  blockMap := []
  extension := none
  files := [
    ⟨List.replicate 18 0, Volume.coreFileKind, 0, 0, 0xf8, [⟨Volume.teKind, false, gappedImage⟩],
      fun _ => 0⟩]
  fill _ := 0xff
  erased := 0

theorem full_image_moves_gapped_image_stays :
    Rebased { fullContext with imageAddress := 0x3000 } (Window.ofBytes fullImage)
        (relocate { fullContext with imageAddress := 0x3000 } (Window.ofBytes fullImage)) ∧
      relocate { gappedContext with imageAddress := 0x3000 } (Window.ofBytes gappedImage) =
        ⟨Window.ofBytes gappedImage, .error (.outOfBounds 0)⟩ := by
  have full : (computeLayout (Window.ofBytes fullImage) 0x3000).result =
      .ok (fullContext, ⟨0x1000, 0x3000, 232, 0⟩) := by decide +kernel
  have gapped : (computeLayout (Window.ofBytes gappedImage) 0x3000).result =
      .ok (gappedContext, ⟨0x1000, 0x2fc8, 40, 0⟩) := by decide +kernel
  exact ⟨(empty_table_moves full ⟨rfl, rfl⟩ 0x3000).1 (by decide),
    (empty_table_moves gapped ⟨rfl, rfl⟩ 0x3000).2.1 (by decide)⟩

/-- The gapped image is read, has no table and may be moved; moving it fails, and a load of it that
is refused nothing leaves it half moved. -/
theorem gapped_image_half_moved :
    (computeLayout (Window.ofBytes gappedImage) 0x3000).result.toOption.map (·.1) =
        some gappedContext ∧
      (relocate { gappedContext with imageAddress := 0x3000 } (Window.ofBytes gappedImage)).result =
        .error (.outOfBounds 0) ∧
      ((load PagePermissions.granting .fixups 0x1000 0x20000 gappedVolume.bytes.length).outcome
          ⟨Memory.holding [(0x20000, Contents.ofBytes gappedVolume.bytes)], ()⟩).1 =
        .error (.halfMoved (.outOfBounds 0)) := by
  decide +kernel

end Example

end Image

end PartitionBoot
