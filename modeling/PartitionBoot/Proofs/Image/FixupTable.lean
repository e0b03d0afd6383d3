import Mathlib.Data.List.TakeWhile
import PartitionBoot.Image.Fixup
import PartitionBoot.Proofs.Image.Field

/-!
The relocation table as an image holds it before a move: its blocks and entries in table order,
which of them a move can honor, the fields it shifts and the error it ends with.
-/

namespace PartitionBoot

namespace Fixup

inductive Item where
  | block (start size : Nat)
  | entry (page : UInt32) (raw : UInt16)
deriving DecidableEq

namespace Item

def field? (context : ImageContext) : Item → Option Field
  | block .. => none
  | entry page raw =>
      let field (width : Nat) :=
        (context.offsetOf? (targetOf page raw)).map fun offset => ⟨offset, width⟩
      if kindOf raw = 3 then field 4
      else if kindOf raw = 10 then field 8
      else none

def Sound (context : ImageContext) (size stop : Nat) : Item → Prop
  | block start length => blockHeaderSize ≤ length ∧ start + length ≤ stop
  | entry page raw =>
      kindOf raw = 0 ∨ (kindOf raw = 3 ∨ kindOf raw = 10) ∧
        ∃ field ∈ (entry page raw).field? context, field.span.stop ≤ size

instance (context : ImageContext) (size stop : Nat) : DecidablePred (Sound context size stop)
  | block .. => inferInstanceAs (Decidable (_ ∧ _))
  | entry .. => inferInstanceAs (Decidable (_ ∨ _))

def error : Item → RelocationError
  | block start _ => .badBlock start
  | entry page raw =>
      if kindOf raw = 3 ∨ kindOf raw = 10 then .outOfBounds (targetOf page raw)
      else .unsupportedKind (kindOf raw)

def isEntry : Item → Bool
  | block .. => false
  | entry .. => true

end Item

def entries (image : Window) (page : UInt32) (stop offset : Nat) : List Item :=
  if offset + 2 ≤ stop then
    .entry page (UInt16.ofNat (image.number ⟨offset, 2⟩)) :: entries image page stop (offset + 2)
  else []
termination_by stop - offset
decreasing_by omega

/-- The blocks of a table from an offset on, each with its entries. Behind a block that does not
fit nothing can be read. -/
def items (image : Window) (stop start : Nat) : List Item :=
  if start + blockHeaderSize ≤ stop then
    let page := UInt32.ofNat (image.number ⟨start, 4⟩)
    let size := image.number ⟨start + 4, 4⟩
    .block start size ::
      if _ : blockHeaderSize ≤ size ∧ start + size ≤ stop then
        entries image page (start + size) (start + blockHeaderSize) ++
          items image stop (start + size)
      else []
  else []
termination_by stop - start
decreasing_by
  have header : blockHeaderSize = 8 := rfl
  omega

def table? (context : ImageContext) (image : Window) : Option Span :=
  (context.offsetOf? context.relocations.rva).bind fun start =>
    let table : Span := ⟨start, start + context.relocations.size.toNat⟩
    if table.stop ≤ image.size then some table else none

/-- The fields that are shifted before the first item that is not sound. -/
def fieldsOf (context : ImageContext) (size stop : Nat) (list : List Item) : List Field :=
  (list.takeWhile fun item => item.Sound context size stop).filterMap (Item.field? context)

def targets (context : ImageContext) (image : Window) : List Field :=
  match table? context image with
  | none => []
  | some table => fieldsOf context image.size table.stop (items image table.stop table.start)

def baseWidth : ImageFormat → Nat
  | .te | .pe32Plus => 8
  | .pe32 => 4

def baseField (context : ImageContext) : Field :=
  ⟨context.imageBaseOffset, baseWidth context.format⟩

/-- What a move that has something to do comes to: the error of the first item that is not sound,
or the number of entries. -/
def verdict (context : ImageContext) (image : Window) : Except RelocationError Nat :=
  match table? context image with
  | none => .error (.outOfBounds context.relocations.rva)
  | some table =>
      let items := items image table.stop table.start
      match items.find? fun item => ¬ item.Sound context image.size table.stop with
      | some item => .error item.error
      | none =>
          if (baseField context).span.stop ≤ image.size then .ok (items.countP Item.isEntry)
          else .error (.outOfBounds 0)

variable {context : ImageContext} {image : Window} {size stop start : Nat} {item : Item}
  {rest : List Item}

theorem items_full (full : ¬ start + blockHeaderSize ≤ stop) : items image stop start = [] := by
  rw [items, if_neg full]

theorem items_misfit (room : start + blockHeaderSize ≤ stop)
    (misfit : ¬ (blockHeaderSize ≤ image.number ⟨start + 4, 4⟩ ∧
      start + image.number ⟨start + 4, 4⟩ ≤ stop)) :
    items image stop start = [.block start (image.number ⟨start + 4, 4⟩)] := by
  rw [items, if_pos room]
  exact congrArg _ (dif_neg misfit)

theorem items_block (room : start + blockHeaderSize ≤ stop)
    (fits : blockHeaderSize ≤ image.number ⟨start + 4, 4⟩ ∧
      start + image.number ⟨start + 4, 4⟩ ≤ stop) :
    items image stop start = .block start (image.number ⟨start + 4, 4⟩) ::
      (entries image (UInt32.ofNat (image.number ⟨start, 4⟩))
        (start + image.number ⟨start + 4, 4⟩) (start + blockHeaderSize) ++
        items image stop (start + image.number ⟨start + 4, 4⟩)) := by
  rw [items, if_pos room]
  exact congrArg _ (dif_pos fits)

theorem fieldsOf_cons_sound (sound : item.Sound context size stop) :
    fieldsOf context size stop (item :: rest) =
      (item.field? context).toList ++ fieldsOf context size stop rest := by
  rw [fieldsOf, List.takeWhile_cons_of_pos (by simpa using sound), List.filterMap_cons]
  cases item.field? context <;> rfl

theorem fieldsOf_sound {list : List Item} (sound : ∀ item ∈ list, item.Sound context size stop) :
    fieldsOf context size stop list = list.filterMap (Item.field? context) := by
  rw [fieldsOf, List.takeWhile_eq_self_iff.mpr (by simpa using sound)]

theorem verdict_ok_iff : (∃ applied, verdict context image = .ok applied) ↔
    ∃ table, table? context image = some table ∧
      (∀ item ∈ items image table.stop table.start, item.Sound context image.size table.stop) ∧
      (baseField context).span.stop ≤ image.size := by
  simp only [verdict]
  cases table? context image with
  | none => simp
  | some table =>
      simp only [Option.some.injEq, exists_eq_left']
      split
      · rename_i item found
        have unsound := List.find?_some found
        have member := List.mem_of_find?_eq_some found
        simp only [decide_not, Bool.not_eq_true', decide_eq_false_iff_not] at unsound
        simp only [reduceCtorEq, exists_false, false_iff, not_and]
        exact fun sound => absurd (sound item member) unsound
      · rename_i clean
        have sound : ∀ item ∈ items image table.stop table.start,
            item.Sound context image.size table.stop := by simpa using clean
        split <;> rename_i inside
        · exact iff_of_true ⟨_, rfl⟩ ⟨sound, inside⟩
        · simp [inside]

end Fixup

end PartitionBoot
