import PartitionBoot.Image.Layout
import PartitionBoot.Proofs.Image.FixupRun

/-!
What moving an image comes to. If the fields to be shifted lie apart from each other, from the
table and from the address in the headers, a move does what its table said before the first byte
was changed.
-/

namespace PartitionBoot

namespace Fixup

variable {context : ImageContext} {image : Window} {base : UInt64}

/-- Nothing that a move changes is read by it again. -/
structure Separate (context : ImageContext) (image : Window) : Prop where
  apart : (targets context image).Pairwise fun left right => left.span.Apart right.span
  table : ∀ table ∈ table? context image, ∀ field ∈ targets context image,
    field.span.Apart table
  base : ∀ field ∈ targets context image, field.span.Apart (baseField context).span

/-- The image moved by a distance: all fields that its table names raised by the distance, the
address in its headers set to the new one, and nothing else changed. -/
structure Moved (context : ImageContext) (distance : UInt64) (original moved : Window) : Prop where
  follows : moved.Follows original
  raised : ∀ field ∈ targets context original,
    moved.number field = original.raised field distance.toNat
  imageBase : moved.number (baseField context) =
    (context.imageBase + distance).toNat % Nat.pow 256 (baseField context).width
  kept : ∀ offset, (∀ field ∈ targets context original, ¬ field.span.Covers offset) →
    ¬ (baseField context).span.Covers offset → moved.byte offset = original.byte offset

theorem recordBase_eq (context : ImageContext) (base : UInt64) (image : Window) :
    recordBase context base image = image.put? (baseField context).offset
      (littleEndian (baseField context).width
        (base.toNat % Nat.pow 256 (baseField context).width)) := by
  have bound : base.toNat % Nat.pow 256 8 = base.toNat := Nat.mod_eq_of_lt base.toNat_lt
  simp only [recordBase, baseField, baseWidth]
  cases context.format with
  | te => rw [bound]; rfl
  | pe32Plus => rw [bound]; rfl
  | pe32 => rfl

theorem recordBase_sets (base : UInt64) (inside : (baseField context).span.stop ≤ image.size) :
    ∃ later, recordBase context base image = some later ∧ later.Sets image (baseField context)
      (base.toNat % Nat.pow 256 (baseField context).width) := by
  rw [recordBase_eq]
  exact Window.put?_sets inside (Nat.mod_lt _ (Nat.pow_pos (by decide)))

theorem recordBase_none (base : UInt64) (outside : ¬ (baseField context).span.stop ≤ image.size) :
    recordBase context base image = none := by
  rw [recordBase_eq]
  refine Window.put?_none ?_
  rw [length_littleEndian]
  exact Nat.not_le.mp outside

theorem targets_eq {table : Span} (placed : table? context image = some table) :
    targets context image =
      fieldsOf context image.size table.stop (items image table.stop table.start) := by
  rw [targets, placed]

theorem relocate_eq (image : Window) (moves : distance context ≠ 0)
    (movable : context.relocationsStripped = false) : relocate context image =
      match table? context image with
      | none => ⟨image, .error (.outOfBounds context.relocations.rva)⟩
      | some table =>
          let outcome := applyBlocks context (distance context) table.stop table.start 0 image
          match outcome.result with
          | .error _ => outcome
          | .ok applied =>
              match recordBase context (context.imageBase + distance context) outcome.image with
              | none => ⟨outcome.image, .error (.outOfBounds 0)⟩
              | some image => ⟨image, .ok applied⟩ := by
  simp only [relocate, if_neg moves, movable, Bool.false_eq_true, if_false, table?]
  cases context.offsetOf? context.relocations.rva with
  | none => rfl
  | some start =>
      by_cases outside : image.size < start + context.relocations.size.toNat
      · simp only [if_pos outside, Option.bind_some, if_neg (Nat.not_le.mpr outside)]
      · rw [Option.bind_some, if_pos (Nat.not_lt.mp outside)]
        exact if_neg outside

theorem table?_inside {table : Span} (placed : table? context image = some table) :
    table.stop ≤ image.size := by
  obtain ⟨start, _, inside⟩ := Option.bind_eq_some_iff.mp placed
  simp only at inside
  split at inside
  · cases inside
    assumption
  · cases inside

theorem underway_at_first {table : Span} (separate : Separate context image)
    (placed : table? context image = some table) :
    Underway context (distance context) table image [] (items image table.stop table.start)
      image := by
  have named := targets_eq placed
  refine ⟨Raised.refl _ image, ?_, ?_⟩
  · rw [List.nil_append, ← named]
    exact separate.apart
  · rw [List.nil_append, ← named]
    exact separate.table table placed

theorem Raised.moved {delta : UInt64} {current last : Window}
    (raised : Raised delta (targets context image) image current)
    (sets : last.Sets current (baseField context)
      ((context.imageBase + delta).toNat % Nat.pow 256 (baseField context).width))
    (apart : ∀ field ∈ targets context image, field.span.Apart (baseField context).span) :
    Moved context delta image last where
  follows := sets.follows.trans raised.follows
  raised field member := by
    rw [sets.number_apart (apart field member).symm]
    exact raised.raised field member
  imageBase := sets.stored
  kept offset outside away := by
    rw [sets.kept offset away]
    exact raised.kept offset outside

theorem relocate_unsound {table : Span} {item : Item} (moves : distance context ≠ 0)
    (movable : context.relocationsStripped = false) (placed : table? context image = some table)
    (first : (items image table.stop table.start).find?
      (fun item => ¬ item.Sound context image.size table.stop) = some item)
    (failed : (applyBlocks context (distance context) table.stop table.start 0 image).result =
      .error item.error) :
    (relocate context image).result = .error item.error ∧
      verdict context image = .error item.error := by
  refine ⟨?_, by simp only [verdict, placed, first]⟩
  rw [relocate_eq image moves movable, placed]
  simp only [failed]

theorem relocate_sound {table : Span} {applied : Nat} {outcome : Outcome}
    (moves : distance context ≠ 0) (movable : context.relocationsStripped = false)
    (placed : table? context image = some table)
    (blocks : applyBlocks context (distance context) table.stop table.start 0 image = outcome)
    (counted : outcome.result = .ok applied) :
    relocate context image =
      match recordBase context (context.imageBase + distance context) outcome.image with
      | none => ⟨outcome.image, .error (.outOfBounds 0)⟩
      | some image => ⟨image, .ok applied⟩ := by
  rw [relocate_eq image moves movable, placed]
  simp only [blocks, counted]

theorem relocate_table {table : Span} (moves : distance context ≠ 0)
    (movable : context.relocationsStripped = false) (separate : Separate context image)
    (placed : table? context image = some table) :
    (relocate context image).result = verdict context image ∧
      ∀ applied, verdict context image = .ok applied →
        Moved context (distance context) image (relocate context image).image := by
  rcases applyBlocks_performs 0 (underway_at_first separate placed) (Nat.le_refl _)
    (table?_inside placed) with ⟨item, first, failed⟩ | ⟨all, counted, reached⟩
  · obtain ⟨result, told⟩ := relocate_unsound moves movable placed first failed
    rw [result, told]
    exact ⟨rfl, fun applied impossible => by cases impossible⟩
  · have raised := reached.raised
    have clean : (items image table.stop table.start).find?
        (fun item => ¬ item.Sound context image.size table.stop) = none :=
      List.find?_eq_none.mpr (by simpa using all)
    rw [List.nil_append, ← fieldsOf_sound all, ← targets_eq placed] at raised
    rw [Nat.zero_add] at counted
    rw [relocate_sound moves movable placed rfl counted]
    by_cases inside : (baseField context).span.stop ≤ image.size
    · have told : verdict context image =
          .ok ((items image table.stop table.start).countP Item.isEntry) := by
        simp only [verdict, placed, clean, if_pos inside]
      obtain ⟨last, recorded, sets⟩ :=
        recordBase_sets (context.imageBase + distance context) (by rwa [raised.follows.size])
      rw [recorded, told]
      exact ⟨rfl, fun _ _ => raised.moved sets separate.base⟩
    · have told : verdict context image = .error (.outOfBounds 0) := by
        simp only [verdict, placed, clean, if_neg inside]
      rw [recordBase_none _ (by rwa [raised.follows.size]), told]
      exact ⟨rfl, fun applied impossible => by cases impossible⟩

theorem relocate_eq_verdict (image : Window) (moves : distance context ≠ 0)
    (movable : context.relocationsStripped = false) (separate : Separate context image) :
    (relocate context image).result = verdict context image ∧
      ∀ applied, verdict context image = .ok applied →
        Moved context (distance context) image (relocate context image).image := by
  cases placed : table? context image with
  | none =>
      rw [relocate_eq image moves movable, verdict, placed]
      exact ⟨rfl, fun applied impossible => by cases impossible⟩
  | some table => exact relocate_table moves movable separate placed

/-- A move that has something to do comes to what its table says. It succeeds if the table lies in
the image, all its blocks fit into it, its entries are of known kinds and name fields in the image,
and so does the field of the linked address; then all fields are shifted and nothing else is
changed. Otherwise it ends with the error of the first item in table order. -/
theorem relocate_follows_table (moves : distance context ≠ 0)
    (movable : context.relocationsStripped = false) (separate : Separate context image) :
    ((∃ applied, (relocate context image).result = .ok applied) ↔
      ∃ table, table? context image = some table ∧
        (∀ item ∈ items image table.stop table.start, item.Sound context image.size table.stop) ∧
        (baseField context).span.stop ≤ image.size) ∧
    (relocate context image).result = verdict context image ∧
    ∀ applied, (relocate context image).result = .ok applied →
      Moved context (distance context) image (relocate context image).image := by
  obtain ⟨told, moved⟩ := relocate_eq_verdict image moves movable separate
  rw [told]
  exact ⟨verdict_ok_iff, rfl, moved⟩

def oneBlockImage : Window := Window.ofBytes <|
  [0x56, 0x5A, 0, 0, 0, 0, 40, 0] ++ littleEndian 8 0 ++ littleEndian 8 0x1000 ++
  littleEndian 4 48 ++ littleEndian 4 12 ++ littleEndian 8 0 ++ littleEndian 8 0x1040 ++
  littleEndian 4 0 ++ littleEndian 4 12 ++ littleEndian 2 0xA028 ++ littleEndian 2 0

def oneBlockContext (address : UInt64) : ImageContext where
  imageAddress := address
  imageBase := 0x1000
  format := .te
  headerAdjust := 0
  imageBaseOffset := 16
  entryPoint := 0
  relocations := ⟨48, 12⟩
  relocationsStripped := false

theorem relocate_follows_one_block :
    let image := oneBlockImage
    let context := oneBlockContext 0x3000
    (Image.computeLayout image 0x3000).result.map (·.1) = .ok (oneBlockContext 0x1000) ∧
      Separate context image ∧ targets context image = [⟨40, 8⟩] ∧
      (relocate context image).result = .ok 2 ∧
      (relocate context image).image.number ⟨40, 8⟩ = 0x3040 ∧
      (relocate context image).image.number ⟨16, 8⟩ = 0x3000 := by
  intro image context
  have separate : Separate context image := by
    refine ⟨?_, ?_, ?_⟩ <;> decide +kernel
  have named : targets context image = [⟨40, 8⟩] := by decide +kernel
  obtain ⟨_, told, moved⟩ := relocate_follows_table (by decide +kernel) rfl separate
  have ended : (relocate context image).result = .ok 2 := told.trans (by decide +kernel)
  have shifted := moved 2 ended
  refine ⟨by decide +kernel, separate, named, ended, ?_, ?_⟩
  · rw [shifted.raised ⟨40, 8⟩ (by rw [named]; exact List.mem_singleton_self _)]
    decide +kernel
  · exact shifted.imageBase.trans (by decide +kernel)

end Fixup

end PartitionBoot
