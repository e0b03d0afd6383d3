import PartitionBoot.Proofs.Image.HeaderFields
import PartitionBoot.Proofs.Image.Relocation

/-!
Moving an image twice. A moved image is read as one that was linked for its new address; moved from
there it becomes what it would have become at once.
-/

namespace PartitionBoot

namespace Fixup

variable {context : ImageContext} {image other later : Window} {field : Field} {table : Span}
  {delta further : UInt64} {size stop start : Nat}

theorem width_of_field? {item : Item} (asked : item.field? context = some field) :
    field.width = 4 ∨ field.width = 8 := by
  cases item with
  | block => cases asked
  | entry page raw =>
      simp only [Item.field?] at asked
      split at asked
      · obtain ⟨_, _, rfl⟩ := Option.map_eq_some_iff.mp asked
        exact Or.inl rfl
      · split at asked
        · obtain ⟨_, _, rfl⟩ := Option.map_eq_some_iff.mp asked
          exact Or.inr rfl
        · cases asked

theorem width_of_target (member : field ∈ targets context image) :
    field.width = 4 ∨ field.width = 8 := by
  simp only [targets] at member
  split at member
  · cases member
  · obtain ⟨item, _, asked⟩ := List.mem_filterMap.mp member
    exact width_of_field? asked

/-! What is read of a table depends on nothing but the bytes of the table. -/

theorem entries_congr {page : UInt32}
    (same : ∀ offset, start ≤ offset → offset < stop → other.byte offset = image.byte offset) :
    entries other page stop start = entries image page stop start := by
  fun_induction entries image page stop start with
  | case1 start room ih =>
      have here : other.number ⟨start, 2⟩ = image.number ⟨start, 2⟩ :=
        Window.number_congr fun place covers =>
          same place covers.1 (Nat.lt_of_lt_of_le covers.2 room)
      rw [entries, if_pos room, here, ih fun place low high => same place (by omega) high]
  | case2 start full => rw [entries, if_neg full]

theorem items_congr
    (same : ∀ offset, start ≤ offset → offset < stop → other.byte offset = image.byte offset) :
    items other stop start = items image stop start := by
  have header : blockHeaderSize = 8 := rfl
  fun_induction items image stop start with
  | case1 start room page size ih =>
      have held (offset : Nat) (low : start ≤ offset) (high : offset + 4 ≤ start + 8) :
          other.number ⟨offset, 4⟩ = image.number ⟨offset, 4⟩ :=
        Window.number_congr fun place covers => same place (Nat.le_trans low covers.1) (by
          have last : place < offset + 4 := covers.2
          omega)
      have first := held start (by omega) (by omega)
      have second := held (start + 4) (by omega) (by omega)
      by_cases fits : blockHeaderSize ≤ size ∧ start + size ≤ stop
      · rw [dif_pos fits, items_block room (by rwa [second]), first, second,
          entries_congr fun place low high => same place (by omega) (by omega),
          ih fits fun place low high => same place (by omega) high]
      · rw [dif_neg fits, items_misfit room (by rwa [second]), second]
  | case2 start full => rw [items_full full]

theorem raised_again {width number : Nat} (fits : width = 4 ∨ width = 8) :
    ((number + delta.toNat) % Nat.pow 256 width + further.toNat) % Nat.pow 256 width =
      (number + (delta + further).toNat) % Nat.pow 256 width := by
  rw [Nat.mod_add_mod, UInt64.toNat_add]
  rcases fits with rfl | rfl <;> simp only [Nat.pow_eq, Nat.reducePow] <;> omega

/-- The fields to be shifted, the table, the field of the linked address and the fields that the
headers are read from lie apart. -/
structure Untangled (context : ImageContext) (image : Window) : Prop
    extends Separate context image where
  tableBase : ∀ table ∈ table? context image, (baseField context).span.Apart table
  headers : ∀ header ∈ Image.headerFields image, (baseField context).span.Apart header.span ∧
    ∀ field ∈ targets context image, field.span.Apart header.span

namespace Moved

variable {first second : Window} {base address : UInt64}

theorem table_kept (moved : Moved context delta image later) (untangled : Untangled context image)
    (placed : table? context image = some table) {offset : Nat} (covers : table.Covers offset) :
    later.byte offset = image.byte offset :=
  moved.kept offset
    (fun field member => (untangled.table table placed field member).not_covers covers)
    ((untangled.tableBase table placed).not_covers covers)

theorem sameHeaders (moved : Moved context delta image later)
    (untangled : Untangled context image) : Image.SameHeaders image later where
  size := moved.follows.size
  fields header member offset covers :=
    have apart := untangled.headers header member
    moved.kept offset (fun field target => (apart.2 field target).not_covers covers)
      (apart.1.not_covers covers)

theorem table?_eq (moved : Moved context delta image later) :
    table? context later = table? context image := by
  rw [table?, table?, moved.follows.size]

theorem items_eq (moved : Moved context delta image later) (untangled : Untangled context image)
    (placed : table? context image = some table) :
    items later table.stop table.start = items image table.stop table.start :=
  items_congr fun _ low high => moved.table_kept untangled placed ⟨low, high⟩

theorem targets_eq (moved : Moved context delta image later)
    (untangled : Untangled context image) : targets context later = targets context image := by
  rw [targets, targets, moved.table?_eq]
  split
  · rfl
  · rename_i table placed
    rw [moved.items_eq untangled placed, moved.follows.size]

theorem verdict_eq (moved : Moved context delta image later)
    (untangled : Untangled context image) : verdict context later = verdict context image := by
  rw [verdict, verdict, moved.table?_eq]
  split
  · rfl
  · rename_i table placed
    simp only [moved.items_eq untangled placed, moved.follows.size]

theorem separate (moved : Moved context delta image later) (untangled : Untangled context image) :
    Separate context later := by
  refine ⟨?_, ?_, ?_⟩ <;> rw [moved.targets_eq untangled]
  · exact untangled.apart
  · rw [moved.table?_eq]
    exact untangled.table
  · exact untangled.base

theorem still (linked : context.imageBase.toNat = image.number (baseField context)) :
    Moved context 0 image image where
  follows := Window.Follows.refl image
  raised field _ := by
    rw [Window.raised, UInt64.toNat_zero, Nat.add_zero, Nat.mod_eq_of_lt (image.number_lt field)]
  imageBase := by
    rw [UInt64.add_zero, linked, Nat.mod_eq_of_lt (image.number_lt _)]
  kept _ _ _ := rfl

theorem trans (early : Moved context delta image first)
    (late : Moved (context.placed (context.imageBase + delta) address) further first second)
    (untangled : Untangled context image) : Moved context (delta + further) image second where
  follows := late.follows.trans early.follows
  raised field member := by
    have still : field ∈ targets context first := by rwa [early.targets_eq untangled]
    rw [late.raised field still, Window.raised, early.raised field member]
    exact raised_again (width_of_target member)
  imageBase := by
    rw [← UInt64.add_assoc]
    exact late.imageBase
  kept offset outside away := by
    rw [← early.kept offset outside away]
    refine late.kept offset (fun field member => outside field ?_) away
    rw [← early.targets_eq untangled]
    exact member

theorem bytes_eq (left : Moved context delta image first)
    (right : Moved context delta image second) : first.bytes = second.bytes := by
  refine Window.bytes_ext (left.follows.size.trans right.follows.size.symm) fun offset => ?_
  by_cases base : (baseField context).span.Covers offset
  · exact Window.byte_of_number (left.imageBase.trans right.imageBase.symm) base
  · by_cases target : ∃ field ∈ targets context image, field.span.Covers offset
    · obtain ⟨field, member, covers⟩ := target
      exact Window.byte_of_number
        ((left.raised field member).trans (right.raised field member).symm) covers
    · have outside : ∀ field ∈ targets context image, ¬ field.span.Covers offset :=
        fun field member covers => target ⟨field, member, covers⟩
      exact (left.kept offset outside base).trans (right.kept offset outside base).symm

end Moved

end Fixup

namespace Image

open Fixup

variable {image first second later : Window} {context : ImageContext} {layout : ImageLayout}
  {address elsewhere there : UInt64}

def movedTo? (image : Window) (address : UInt64) : Option Window :=
  match (computeLayout image address).result with
  | .error _ => none
  | .ok (context, _) =>
      let outcome := relocate { context with imageAddress := address } image
      match outcome.result with
      | .error _ => none
      | .ok _ => some outcome.image

theorem movedTo?_eq (laid : (computeLayout image address).result = .ok (context, layout))
    (elsewhere : UInt64) : movedTo? image elsewhere =
      match (relocate (context.placed context.imageBase elsewhere) image).result with
      | .error _ => none
      | .ok _ => some (relocate (context.placed context.imageBase elsewhere) image).image := by
  obtain ⟨parsed, read, inside, rfl, _⟩ := computeLayout_ok_iff.mp laid
  have there : (computeLayout image elsewhere).result = .ok (parsed.context, _) :=
    computeLayout_ok_iff.mpr ⟨parsed, read, inside, rfl, rfl⟩
  rw [movedTo?, there]
  rfl

theorem distance_placed_eq_zero_iff :
    distance (context.placed context.imageBase address) = 0 ↔
      address = context.linkedAddress := by
  simp only [distance, ImageContext.placed, ImageContext.linkedAddress]
  grind

theorem movedTo?_linked (laid : (computeLayout image address).result = .ok (context, layout)) :
    movedTo? image context.linkedAddress = some image := by
  rw [movedTo?_eq laid, relocate, if_pos (distance_placed_eq_zero_iff.mpr rfl)]

theorem movedTo?_of_verdict (laid : (computeLayout image address).result = .ok (context, layout))
    (away : elsewhere ≠ context.linkedAddress) (movable : context.relocationsStripped = false)
    (separate : Separate context image) {applied : Nat}
    (told : verdict context image = .ok applied) :
    ∃ later, movedTo? image elsewhere = some later ∧
      Moved context (elsewhere - context.linkedAddress) image later := by
  obtain ⟨result, moved⟩ := relocate_eq_verdict image
    (mt distance_placed_eq_zero_iff.mp away) movable
    ⟨separate.apart, separate.table, separate.base⟩
  have reached := moved applied told
  rw [movedTo?_eq laid, result.trans told]
  exact ⟨_, rfl, reached.follows, reached.raised, reached.imageBase, reached.kept⟩

theorem imageBase_held (laid : (computeLayout image address).result = .ok (context, layout)) :
    context.imageBase.toNat = image.number (baseField context) := by
  have base : context.imageBase = UInt64.ofNat (image.number (baseField context)) :=
    congrArg ImageContext.imageBase (computeLayout_base laid)
  have bound := image.number_lt (baseField context)
  have wide : Nat.pow 256 (baseField context).width ≤ 2 ^ 64 := by
    simp only [baseField, baseWidth]
    cases context.format <;> decide
  rw [base, UInt64.toNat_ofNat']
  exact Nat.mod_eq_of_lt (Nat.lt_of_lt_of_le bound wide)

theorem moved_of_movedTo? (laid : (computeLayout image address).result = .ok (context, layout))
    (separate : Separate context image) (moved : movedTo? image elsewhere = some later) :
    Moved context (elsewhere - context.linkedAddress) image later ∧
      (elsewhere ≠ context.linkedAddress → context.relocationsStripped = false ∧
        ∃ applied, verdict context image = .ok applied) := by
  by_cases away : elsewhere = context.linkedAddress
  · subst away
    rw [movedTo?_linked laid, Option.some.injEq] at moved
    subst later
    rw [UInt64.sub_self]
    exact ⟨Moved.still (imageBase_held laid), fun impossible => absurd rfl impossible⟩
  have moves := mt distance_placed_eq_zero_iff.mp away
  have refused : context.relocationsStripped = false := by
    by_contra stripped
    rw [Bool.not_eq_false] at stripped
    rw [movedTo?_eq laid, relocate, if_neg moves] at moved
    simp only [ImageContext.placed, stripped, if_true] at moved
    cases moved
  obtain ⟨result, _⟩ := relocate_eq_verdict image moves refused
    ⟨separate.apart, separate.table, separate.base⟩
  cases told : verdict context image with
  | error error =>
      rw [movedTo?_eq laid, result.trans told] at moved
      cases moved
  | ok applied =>
      obtain ⟨reached, done, placed⟩ := movedTo?_of_verdict laid away refused separate told
      rw [moved, Option.some.injEq] at done
      subst reached
      exact ⟨placed, fun _ => ⟨refused, applied, rfl⟩⟩

/-- The headers of a moved image say that it is linked for where it was moved to. -/
theorem computeLayout_moved (laid : (computeLayout image address).result = .ok (context, layout))
    (untangled : Untangled context image)
    (narrow : context.format = .pe32 → elsewhere.toNat < UInt32.size)
    (moved : Moved context (elsewhere - context.linkedAddress) image first) :
    ∃ layout, (computeLayout first address).result = .ok
      (context.relinked (context.imageBase + (elsewhere - context.linkedAddress)), layout) := by
  have fits : (context.imageBase + (elsewhere - context.linkedAddress)).toNat <
      Nat.pow 256 (baseField context).width := by
    simp only [baseField]
    cases format : context.format with
    | te => exact UInt64.toNat_lt _
    | pe32Plus => exact UInt64.toNat_lt _
    | pe32 =>
        have origin := computeLayout_headerAdjust laid (by rw [format]; decide)
        have same : context.imageBase + (elsewhere - context.linkedAddress) = elsewhere := by
          simp only [ImageContext.linkedAddress, origin]
          grind
        rw [same]
        exact narrow format
  have held := moved.imageBase
  rw [Nat.mod_eq_of_lt fits] at held
  have again := computeLayout_relinked (moved.sameHeaders untangled) laid address
  rwa [held, UInt64.ofNat_toNat] at again

theorem movedTo?_again (laid : (computeLayout image address).result = .ok (context, layout))
    (untangled : Untangled context image)
    (narrow : context.format = .pe32 → elsewhere.toNat < UInt32.size)
    (firstMoved : movedTo? image elsewhere = some first)
    (secondMoved : movedTo? image there = some second) :
    ∃ twice, movedTo? first there = some twice ∧ twice.bytes = second.bytes := by
  obtain ⟨early, earlyMovable⟩ := moved_of_movedTo? laid untangled.toSeparate firstMoved
  obtain ⟨once, movable⟩ := moved_of_movedTo? laid untangled.toSeparate secondMoved
  obtain ⟨_, relaid⟩ := computeLayout_moved laid untangled narrow early
  have linked : (context.relinked
      (context.imageBase + (elsewhere - context.linkedAddress))).linkedAddress = elsewhere := by
    simp only [ImageContext.relinked, ImageContext.placed, ImageContext.linkedAddress]
    grind
  by_cases same : there = elsewhere
  -- An image that is where it should be is not looked at any further.
  · subst same
    have stays := movedTo?_linked relaid
    rw [linked] at stays
    exact ⟨first, stays, early.bytes_eq once⟩
  · obtain ⟨kept, applied, told⟩ : context.relocationsStripped = false ∧
        ∃ applied, verdict context image = .ok applied := by
      by_cases away : elsewhere = context.linkedAddress
      · exact movable (by rwa [← away])
      · exact earlyMovable away
    have apart := early.separate untangled
    have further : there ≠ (context.relinked
        (context.imageBase + (elsewhere - context.linkedAddress))).linkedAddress := by
      rwa [linked]
    obtain ⟨twice, done, late⟩ := movedTo?_of_verdict relaid further kept
      ⟨apart.apart, apart.table, apart.base⟩ ((early.verdict_eq untangled).trans told)
    rw [linked] at late
    have whole := early.trans late untangled
    have total : elsewhere - context.linkedAddress + (there - elsewhere) =
        there - context.linkedAddress := by grind
    rw [total] at whole
    exact ⟨twice, done, whole.bytes_eq once⟩

/-- Moving an image twice comes to the same as moving it at once. Moved back to where it was linked
for an image is what it was, and moved to where it is it does not change. -/
theorem moves_compose (laid : (computeLayout image address).result = .ok (context, layout))
    (untangled : Untangled context image)
    (narrow : context.format = .pe32 → elsewhere.toNat < UInt32.size)
    (firstMoved : movedTo? image elsewhere = some first)
    (secondMoved : movedTo? image there = some second) :
    (∃ twice, movedTo? first there = some twice ∧ twice.bytes = second.bytes) ∧
    (∃ back, movedTo? first context.linkedAddress = some back ∧ back.bytes = image.bytes) ∧
    ∃ still, movedTo? first elsewhere = some still ∧ still.bytes = first.bytes :=
  ⟨movedTo?_again laid untangled narrow firstMoved secondMoved,
    movedTo?_again laid untangled narrow firstMoved (movedTo?_linked laid),
    movedTo?_again laid untangled narrow firstMoved firstMoved⟩

theorem moves_compose_one_block :
    ∃ first second twice, movedTo? oneBlockImage 0x3000 = some first ∧
      movedTo? oneBlockImage 0x5000 = some second ∧ second.bytes ≠ first.bytes ∧
      movedTo? first 0x5000 = some twice ∧ twice.bytes = second.bytes ∧
      ∃ back, movedTo? first 0x1000 = some back ∧ back.bytes = oneBlockImage.bytes := by
  have untangled : Untangled (oneBlockContext 0x1000) oneBlockImage := by
    refine ⟨⟨?_, ?_, ?_⟩, ?_, ?_⟩ <;> decide +kernel
  have laid : (computeLayout oneBlockImage 0).result =
      .ok (oneBlockContext 0x1000, ⟨0x1000, 0, 40, 0⟩) := by decide +kernel
  obtain ⟨first, firstMoved⟩ : ∃ first, movedTo? oneBlockImage 0x3000 = some first :=
    Option.isSome_iff_exists.mp (by decide +kernel)
  obtain ⟨second, secondMoved⟩ : ∃ second, movedTo? oneBlockImage 0x5000 = some second :=
    Option.isSome_iff_exists.mp (by decide +kernel)
  have differ : (movedTo? oneBlockImage 0x5000).map Window.bytes ≠
      (movedTo? oneBlockImage 0x3000).map Window.bytes := by decide +kernel
  rw [firstMoved, secondMoved] at differ
  obtain ⟨⟨twice, done, same⟩, back, _⟩ :=
    moves_compose laid untangled (fun narrow => by cases narrow) firstMoved secondMoved
  exact ⟨first, second, twice, firstMoved, secondMoved, fun equal => differ (congrArg some equal),
    done, same, back⟩

end Image

end PartitionBoot
