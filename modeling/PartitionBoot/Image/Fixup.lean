import PartitionBoot.Image.Header
import PartitionBoot.Memory.Window

/-!
Base relocation. The relocation table is a row of blocks, each a page address and its entries; an
entry names a word of the image that holds an absolute address. Moving an image adds the distance
of the move to each such word, and the headers are made to describe the image at its new address.
The table is read from the image while the image is being changed, and whatever was changed
before an error stays changed.
-/

namespace PartitionBoot

namespace Fixup

def blockHeaderSize : Nat := 8

/-- What moving an image came to: the image, and the number of fixups applied or the error that
ended the move. -/
structure Outcome where
  image : Window
  result : Except RelocationError Nat

def shift32? (image : Window) (offset : Nat) (delta : UInt32) : Option Window := do
  let value ← image.le32? offset
  image.putLe32? offset (value + delta)

def shift64? (image : Window) (offset : Nat) (delta : UInt64) : Option Window := do
  let value ← image.le64? offset
  image.putLe64? offset (value + delta)

def kindOf (entry : UInt16) : UInt16 := entry >>> 12

def targetOf (page : UInt32) (entry : UInt16) : UInt32 := page + (entry &&& 0x0fff).toUInt32

/-- Applies one entry of a block. An entry of kind 0 asks for nothing, kind 3 for a shift of a
32-bit word and kind 10 for a shift of a 64-bit word. -/
def apply (context : ImageContext) (delta : UInt64) (page : UInt32) (entry : UInt16)
    (image : Window) : Except RelocationError Window :=
  let rva := targetOf page entry
  let shifted : Option Window → Except RelocationError Window
    | some later => .ok later
    | none => .error (.outOfBounds rva)
  if kindOf entry = 0 then .ok image
  else if kindOf entry = 3 then
    shifted ((context.offsetOf? rva).bind (shift32? image · delta.toUInt32))
  else if kindOf entry = 10 then
    shifted ((context.offsetOf? rva).bind (shift64? image · delta))
  else .error (.unsupportedKind (kindOf entry))

def applyAt (context : ImageContext) (delta : UInt64) (block : Nat) (page : UInt32)
    (offset : Nat) (image : Window) : Except RelocationError Window :=
  match image.le16? offset with
  | none => .error (.badBlock block)
  | some entry => apply context delta page entry image

def applyEntries (context : ImageContext) (delta : UInt64) (block stop : Nat) (page : UInt32)
    (offset applied : Nat) (image : Window) : Outcome :=
  if offset + 2 ≤ stop then
    match applyAt context delta block page offset image with
    | .error error => ⟨image, .error error⟩
    | .ok later => applyEntries context delta block stop page (offset + 2) (applied + 1) later
  else ⟨image, .ok applied⟩
termination_by stop - offset
decreasing_by omega

def applyBlocks (context : ImageContext) (delta : UInt64) (stop block applied : Nat)
    (image : Window) : Outcome :=
  if block + blockHeaderSize ≤ stop then
    match image.le32? block, image.le32? (block + 4) with
    | some page, some size =>
        if _ : blockHeaderSize ≤ size.toNat ∧ block + size.toNat ≤ stop then
          let outcome := applyEntries context delta block (block + size.toNat) page
            (block + blockHeaderSize) applied image
          match outcome.result with
          | .error _ => outcome
          | .ok applied =>
              applyBlocks context delta stop (block + size.toNat) applied outcome.image
        else ⟨image, .error (.badBlock block)⟩
    | _, _ => ⟨image, .error (.badBlock block)⟩
  else ⟨image, .ok applied⟩
termination_by stop - block
decreasing_by
  have header : blockHeaderSize = 8 := rfl
  omega

def recordBase (context : ImageContext) (base : UInt64) (image : Window) : Option Window :=
  match context.format with
  | .te | .pe32Plus => image.putLe64? context.imageBaseOffset base
  | .pe32 => image.putLe32? context.imageBaseOffset base.toUInt32

def distance (context : ImageContext) : UInt64 := context.imageAddress - context.linkedAddress

def relocate (context : ImageContext) (image : Window) : Outcome :=
  let delta := distance context
  if delta = 0 then ⟨image, .ok 0⟩
  else if context.relocationsStripped then ⟨image, .error .relocationsStripped⟩
  else
    let table := context.relocations
    match context.offsetOf? table.rva with
    | none => ⟨image, .error (.outOfBounds table.rva)⟩
    | some start =>
        if image.size < start + table.size.toNat then
          ⟨image, .error (.outOfBounds table.rva)⟩
        else
          let outcome := applyBlocks context delta (start + table.size.toNat) start 0 image
          match outcome.result with
          | .error _ => outcome
          | .ok applied =>
              match recordBase context (context.imageBase + delta) outcome.image with
              | none => ⟨outcome.image, .error (.outOfBounds 0)⟩
              | some image => ⟨image, .ok applied⟩

/-! Moving an image leaves its bounds and all memory outside it alone. -/

theorem shift32?_follows {image later : Window} {offset : Nat} {delta : UInt32}
    (shifted : shift32? image offset delta = some later) : later.Follows image := by
  obtain ⟨_, _, stored⟩ := Option.bind_eq_some_iff.mp shifted
  exact Window.follows_of_put? stored

theorem shift64?_follows {image later : Window} {offset : Nat} {delta : UInt64}
    (shifted : shift64? image offset delta = some later) : later.Follows image := by
  obtain ⟨_, _, stored⟩ := Option.bind_eq_some_iff.mp shifted
  exact Window.follows_of_put? stored

theorem apply_follows {context : ImageContext} {delta : UInt64} {page : UInt32} {entry : UInt16}
    {image later : Window} (applied : apply context delta page entry image = .ok later) :
    later.Follows image := by
  simp only [apply] at applied
  split at applied
  · cases applied
    exact Window.Follows.refl image
  · split at applied
    · split at applied
      · cases applied
        obtain ⟨_, _, shifted⟩ := Option.bind_eq_some_iff.mp ‹_ = some later›
        exact shift32?_follows shifted
      · contradiction
    · split at applied
      · split at applied
        · cases applied
          obtain ⟨_, _, shifted⟩ := Option.bind_eq_some_iff.mp ‹_ = some later›
          exact shift64?_follows shifted
        · contradiction
      · contradiction

theorem applyAt_follows {context : ImageContext} {delta : UInt64} {block : Nat} {page : UInt32}
    {offset : Nat} {image later : Window}
    (applied : applyAt context delta block page offset image = .ok later) :
    later.Follows image := by
  simp only [applyAt] at applied
  split at applied
  · contradiction
  · exact apply_follows applied

theorem applyEntries_follows (context : ImageContext) (delta : UInt64) (block stop : Nat)
    (page : UInt32) (offset applied : Nat) (image : Window) :
    (applyEntries context delta block stop page offset applied image).image.Follows image := by
  fun_induction applyEntries context delta block stop page offset applied image with
  | case1 => exact Window.Follows.refl _
  | case2 _ _ _ _ _ done ih => exact ih.trans (applyAt_follows done)
  | case3 => exact Window.Follows.refl _

theorem applyBlocks_follows (context : ImageContext) (delta : UInt64) (stop block applied : Nat)
    (image : Window) :
    (applyBlocks context delta stop block applied image).image.Follows image := by
  fun_induction applyBlocks context delta stop block applied image with
  | case1 => exact applyEntries_follows ..
  | case2 =>
      rename_i ih
      exact ih.trans (applyEntries_follows ..)
  | case3 => exact Window.Follows.refl _
  | case4 => exact Window.Follows.refl _
  | case5 => exact Window.Follows.refl _

theorem recordBase_follows {context : ImageContext} {base : UInt64} {image later : Window}
    (recorded : recordBase context base image = some later) : later.Follows image := by
  simp only [recordBase] at recorded
  split at recorded <;> exact Window.follows_of_put? recorded

theorem relocate_follows (context : ImageContext) (image : Window) :
    (relocate context image).image.Follows image := by
  simp only [relocate]
  repeat' split
  all_goals first
    | exact Window.Follows.refl image
    | exact applyBlocks_follows ..
    | exact (recordBase_follows ‹_›).trans (applyBlocks_follows ..)

end Fixup

end PartitionBoot
