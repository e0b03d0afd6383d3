import PartitionBoot.Proofs.Image.Relocation

/-!
The walk of a relocation table that may change while it is walked. A field that an entry shifts can
lie in the table, so each block and each entry is taken as the image holds it when the walk gets
there; only the bounds of the table are those of the start. A step of the walk goes into a block,
performs an entry of it or leaves it, and every step gets on: what is written into the table can
make the walk fail, but it cannot make it stay, go back or leave the table.
-/

namespace PartitionBoot

namespace Fixup

variable {context : ImageContext} {delta : UInt64} {table : Span} {image later walked : Window}

/-- Where a walk stands: before a block, or before an entry of a block. -/
inductive Stage where
  | block (start : Nat)
  | entry (block : Span) (page : UInt32) (offset : Nat)

namespace Stage

def Within (table : Span) : Stage → Prop
  | block start => table.start ≤ start ∧ start ≤ table.stop
  | entry span _ offset =>
      span.Within table ∧ span.start + blockHeaderSize ≤ offset ∧ offset ≤ span.stop

def following : Stage → Nat
  | block start => start
  | entry span _ _ => span.stop

def inner : Stage → List Span
  | block _ => []
  | entry span _ _ => [span]

/-- How far a walk has got. Two bytes are kept back for leaving a block. -/
def reached : Stage → Nat
  | block start => start
  | entry _ _ offset => offset - 2

variable {stage : Stage}

theorem Within.reached_le (within : stage.Within table) : stage.reached ≤ table.stop := by
  cases stage with
  | block start => exact within.2
  | entry span page offset =>
      exact Nat.le_trans (Nat.sub_le _ _) (Nat.le_trans within.2.2 within.1.2)

def outcome (context : ImageContext) (delta : UInt64) (table : Span) (applied : Nat)
    (image : Window) : Stage → Outcome
  | block start => applyBlocks context delta table.stop start applied image
  | entry span page offset =>
      let outcome := applyEntries context delta span.start span.stop page offset applied image
      match outcome.result with
      | .error _ => outcome
      | .ok applied => applyBlocks context delta table.stop span.stop applied outcome.image

end Stage

/-- What a step of a walk does: it goes into a block, performs an entry of it, which asks to shift
a field or asks for nothing, or leaves the block. -/
inductive Event where
  | opened (block : Span)
  | performed (block : Span) (offset : Nat) (field : Option Field)
  | closed (block : Span)

namespace Event

def block? : Event → Option Span
  | opened block => some block
  | performed .. | closed _ => none

def field? : Event → Option Field
  | performed _ _ field => field
  | opened _ | closed _ => none

def isEntry : Event → Bool
  | performed .. => true
  | opened _ | closed _ => false

end Event

def blocksOf (trace : List Event) : List Span := trace.filterMap Event.block?

def shiftedBy (trace : List Event) : List Field := trace.filterMap Event.field?

def Shifts (delta : UInt64) (image later : Window) : Option Field → Prop
  | none => later = image
  | some field => later.Sets image field (image.raised field delta.toNat)

theorem apply_shifts {page : UInt32} {raw : UInt16} {stop : Nat}
    (sound : (Item.entry page raw).Sound context image.size stop) :
    ∃ later, apply context delta page raw image = .ok later ∧
      Shifts delta image later ((Item.entry page raw).field? context) := by
  obtain ⟨later, applied, ⟨asked, same⟩ | ⟨field, asked, sets⟩⟩ := apply_sound delta sound
  · exact ⟨later, applied, by rwa [asked]⟩
  · exact ⟨later, applied, by rwa [asked]⟩

inductive Step (context : ImageContext) (delta : UInt64) (table : Span) :
    Stage → Window → Event → Stage → Window → Prop
  | enter {start : Nat} {block : Span} {image : Window}
      (room : start + blockHeaderSize ≤ table.stop)
      (bounds : block = ⟨start, start + image.number ⟨start + 4, 4⟩⟩)
      (fits : (Item.block start (image.number ⟨start + 4, 4⟩)).Sound context image.size
        table.stop) :
      Step context delta table (.block start) image (.opened block)
        (.entry block (UInt32.ofNat (image.number ⟨start, 4⟩)) (start + blockHeaderSize)) image
  | perform {block : Span} {page : UInt32} {offset : Nat} {raw : UInt16} {image later : Window}
      (room : offset + 2 ≤ block.stop) (read : raw = UInt16.ofNat (image.number ⟨offset, 2⟩))
      (sound : (Item.entry page raw).Sound context image.size table.stop)
      (shifts : Shifts delta image later ((Item.entry page raw).field? context)) :
      Step context delta table (.entry block page offset) image
        (.performed block offset ((Item.entry page raw).field? context))
        (.entry block page (offset + 2)) later
  | leave {block : Span} {page : UInt32} {offset : Nat} {image : Window}
      (full : ¬ offset + 2 ≤ block.stop) :
      Step context delta table (.entry block page offset) image (.closed block)
        (.block block.stop) image

/-- Why a walk cannot go on: the block that it is before does not fit into the table, or the entry
is of an unknown kind or names a field outside the image. -/
inductive Stuck (context : ImageContext) (table : Span) (image : Window) :
    Stage → RelocationError → Prop
  | block {start : Nat} (room : start + blockHeaderSize ≤ table.stop)
      (misfit : ¬ (Item.block start (image.number ⟨start + 4, 4⟩)).Sound context image.size
        table.stop) :
      Stuck context table image (.block start) (.badBlock start)
  | entry {block : Span} {page : UInt32} {offset : Nat} {raw : UInt16}
      (room : offset + 2 ≤ block.stop) (read : raw = UInt16.ofNat (image.number ⟨offset, 2⟩))
      (unsound : ¬ (Item.entry page raw).Sound context image.size table.stop) :
      Stuck context table image (.entry block page offset) (Item.entry page raw).error

inductive Finished (table : Span) : Stage → Prop
  | block {start : Nat} (full : ¬ start + blockHeaderSize ≤ table.stop) :
      Finished table (.block start)

section Step

variable {stage next : Stage} {event : Event}

namespace Step

theorem within (step : Step context delta table stage image event next later)
    (within : stage.Within table) : next.Within table := by
  cases step with
  | enter room bounds fits =>
      subst bounds
      obtain ⟨long, inside⟩ := fits
      exact ⟨⟨within.1, inside⟩, Nat.le_refl _, Nat.add_le_add_left long _⟩
  | perform room read sound shifts =>
      exact ⟨within.1, Nat.le_add_right_of_le within.2.1, room⟩
  | leave full =>
      have header := Nat.le_trans within.2.1 within.2.2
      exact ⟨Nat.le_trans within.1.1 (Nat.le_trans (Nat.le_add_right _ _) header), within.1.2⟩

theorem advances (step : Step context delta table stage image event next later)
    (within : stage.Within table) : stage.reached + 2 ≤ next.reached := by
  have header : blockHeaderSize = 8 := rfl
  cases step with
  | enter => simp only [Stage.reached]; omega
  | perform =>
      have behind := within.2.1
      simp only [Stage.reached]
      omega
  | leave =>
      obtain ⟨-, behind, inside⟩ := within
      simp only [Stage.reached]
      omega

theorem follows (step : Step context delta table stage image event next later) :
    later.Follows image := by
  cases step with
  | enter => exact Window.Follows.refl image
  | leave => exact Window.Follows.refl image
  | perform room read sound shifts =>
      cases asked : (Item.entry _ _).field? context with
      | none =>
          rw [asked] at shifts
          exact shifts ▸ Window.Follows.refl image
      | some field =>
          rw [asked] at shifts
          exact shifts.follows

theorem kept (step : Step context delta table stage image event next later) {offset : Nat}
    (outside : ∀ field ∈ event.field?, ¬ field.span.Covers offset) :
    later.byte offset = image.byte offset := by
  cases step with
  | enter => rfl
  | leave => rfl
  | perform room read sound shifts =>
      simp only [Event.field?] at outside
      cases asked : (Item.entry _ _).field? context with
      | none =>
          rw [asked] at shifts
          exact shifts ▸ rfl
      | some field =>
          rw [asked] at shifts outside
          exact shifts.kept offset (outside field rfl)

theorem field_inside (step : Step context delta table stage image event next later) {field : Field}
    (asked : field ∈ event.field?) : field.span.stop ≤ image.size := by
  cases step with
  | enter => cases asked
  | leave => cases asked
  | perform room read sound shifts =>
      rw [Event.field?] at asked
      rcases sound with kind | ⟨_, named, same, inside⟩
      · simp [Item.field?, kind] at asked
      · rw [Option.mem_unique asked same]
        exact inside

end Step

/-- A turn of the loops: they make a step and come to what they come to from there on, or the walk
is stuck or finished and they return. -/
inductive Turn (context : ImageContext) (delta : UInt64) (table : Span) (stage : Stage)
    (image : Window) : Prop
  | step {event : Event} {next : Stage} {later : Window}
      (step : Step context delta table stage image event next later)
      (goes : ∀ applied, stage.outcome context delta table applied image =
        next.outcome context delta table (applied + if event.isEntry then 1 else 0) later)
  | stuck {error : RelocationError} (stuck : Stuck context table image stage error)
      (fails : ∀ applied, stage.outcome context delta table applied image = ⟨image, .error error⟩)
  | finished (finished : Finished table stage)
      (counts : ∀ applied, stage.outcome context delta table applied image = ⟨image, .ok applied⟩)

theorem block_turn {start : Nat} (inside : table.stop ≤ image.size) :
    Turn context delta table (.block start) image := by
  by_cases room : start + blockHeaderSize ≤ table.stop
  · have header : blockHeaderSize = 8 := rfl
    have page : image.le32? start = some _ := Window.le32?_inside (by omega)
    have size : image.le32? (start + 4) = some _ := Window.le32?_inside (by omega)
    have length := Window.number_of_le32? size
    by_cases fits : (Item.block start (image.number ⟨start + 4, 4⟩)).Sound context image.size
        table.stop
    · refine .step (.enter room rfl fits) fun applied => ?_
      rw [Stage.outcome, applyBlocks, if_pos room, page, size]
      simp only [← length]
      exact dif_pos fits
    · refine .stuck (.block room fits) fun applied => ?_
      rw [Stage.outcome, applyBlocks, if_pos room, page, size]
      rw [length] at fits
      exact dif_neg fits
  · refine .finished (.block room) fun applied => ?_
    rw [Stage.outcome, applyBlocks, if_neg room]

theorem entry_turn {block : Span} {page : UInt32} {offset : Nat} (within : block.Within table)
    (inside : table.stop ≤ image.size) :
    Turn context delta table (.entry block page offset) image := by
  by_cases room : offset + 2 ≤ block.stop
  · have read : image.le16? offset = some _ :=
      Window.le16?_inside (Nat.le_trans room (Nat.le_trans within.2 inside))
    obtain ⟨raw, held⟩ : ∃ raw, raw = UInt16.ofNat (image.number ⟨offset, 2⟩) := ⟨_, rfl⟩
    rw [← held] at read
    by_cases sound : (Item.entry page raw).Sound context image.size table.stop
    · obtain ⟨later, done, shifts⟩ := apply_shifts sound
      refine .step (.perform room held sound shifts) fun applied => ?_
      simp only [Stage.outcome]
      rw [applyEntries, if_pos room, applyAt, read]
      simp only [done]
      rfl
    · refine .stuck (.entry room held sound) fun applied => ?_
      simp only [Stage.outcome]
      rw [applyEntries, if_pos room, applyAt, read]
      simp only [apply_unsound sound]
  · refine .step (.leave room) fun applied => ?_
    simp only [Stage.outcome]
    rw [applyEntries, if_neg room]
    rfl

theorem Stage.Within.turn (within : stage.Within table) (inside : table.stop ≤ image.size) :
    Turn context delta table stage image := by
  cases stage with
  | block start => exact block_turn inside
  | entry span page offset => exact entry_turn within.1 inside

end Step

section Runs

variable {stage next last : Stage} {trace : List Event} {event : Event}

inductive Runs (context : ImageContext) (delta : UInt64) (table : Span) :
    Stage → Window → List Event → Stage → Window → Prop
  | nil {stage : Stage} {image : Window} : Runs context delta table stage image [] stage image
  | cons {stage next last : Stage} {image later walked : Window} {event : Event}
      {trace : List Event} (first : Step context delta table stage image event next later)
      (rest : Runs context delta table next later trace last walked) :
      Runs context delta table stage image (event :: trace) last walked

def Row (stop : Nat) : Nat → List Span → Prop
  | start, [] => start = stop
  | start, block :: rest =>
      block.start = start ∧ start + blockHeaderSize ≤ block.stop ∧ Row stop block.stop rest

namespace Runs

theorem within (runs : Runs context delta table stage image trace last walked)
    (within : stage.Within table) : last.Within table := by
  induction runs with
  | nil => exact within
  | cons first _ ih => exact ih (first.within within)

theorem follows (runs : Runs context delta table stage image trace last walked) :
    walked.Follows image := by
  induction runs with
  | nil => exact Window.Follows.refl _
  | cons first _ ih => exact ih.trans first.follows

theorem length_le (runs : Runs context delta table stage image trace last walked)
    (within : stage.Within table) : stage.reached + 2 * trace.length ≤ last.reached := by
  induction runs with
  | nil => exact Nat.le_refl _
  | cons first _ ih =>
      have step := first.advances within
      have rest := ih (first.within within)
      rw [List.length_cons]
      omega

theorem kept (runs : Runs context delta table stage image trace last walked) {offset : Nat}
    (outside : ∀ field ∈ shiftedBy trace, ¬ field.span.Covers offset) :
    walked.byte offset = image.byte offset := by
  induction runs with
  | nil => rfl
  | cons first _ ih =>
      simp only [shiftedBy, List.mem_filterMap, List.mem_cons] at outside ih
      rw [ih fun field ⟨event, member, asked⟩ => outside field ⟨event, Or.inr member, asked⟩]
      exact first.kept fun field asked => outside field ⟨_, Or.inl rfl, asked⟩

theorem fields_inside (runs : Runs context delta table stage image trace last walked) :
    ∀ field ∈ shiftedBy trace, field.span.stop ≤ image.size := by
  induction runs with
  | nil => simp [shiftedBy]
  | cons first _ ih =>
      intro field member
      obtain ⟨event, member, asked⟩ := List.mem_filterMap.mp member
      rcases List.mem_cons.mp member with rfl | later
      · exact first.field_inside asked
      · rw [← first.follows.size]
        exact ih field (List.mem_filterMap.mpr ⟨event, later, asked⟩)

theorem row (runs : Runs context delta table stage image trace last walked) :
    Row last.following stage.following (blocksOf trace) := by
  induction runs with
  | nil => rfl
  | cons first _ ih =>
      cases first with
      | enter room bounds fits =>
          subst bounds
          exact ⟨rfl, Nat.add_le_add_left fits.1 _, ih⟩
      | perform => exact ih
      | leave => exact ih

theorem blocks_within (runs : Runs context delta table stage image trace last walked)
    (within : stage.Within table) : ∀ block ∈ blocksOf trace, block.Within table := by
  induction runs with
  | nil => simp [blocksOf]
  | cons first _ ih =>
      have later := first.within within
      have rest := ih later
      cases first with
      | enter => exact List.forall_mem_cons.mpr ⟨later.1, rest⟩
      | perform => exact rest
      | leave => exact rest

theorem entries_within (runs : Runs context delta table stage image trace last walked)
    (within : stage.Within table) {block : Span} {offset : Nat} {field : Option Field}
    (member : .performed block offset field ∈ trace) :
    block ∈ stage.inner ++ blocksOf trace ∧
      block.start + blockHeaderSize ≤ offset ∧ offset + 2 ≤ block.stop := by
  induction runs with
  | nil => cases member
  | cons first _ ih =>
      have rest := ih (first.within within)
      cases first with
      | enter => exact rest ((List.mem_cons.mp member).resolve_left Event.noConfusion)
      | perform room =>
          rcases List.mem_cons.mp member with same | later
          · cases same
            exact ⟨List.mem_cons_self, within.2.1, room⟩
          · exact rest later
      | leave =>
          obtain ⟨known, bounds⟩ :=
            rest ((List.mem_cons.mp member).resolve_left Event.noConfusion)
          exact ⟨List.mem_cons_of_mem _ known, bounds⟩

theorem inner_opened (runs : Runs context delta table stage image trace last walked) :
    ∀ block ∈ last.inner, block ∈ stage.inner ++ blocksOf trace := by
  induction runs with
  | nil => exact fun block member => List.mem_append_left _ member
  | cons first _ ih =>
      cases first with
      | enter => exact ih
      | perform => exact ih
      | leave => exact fun block member => List.mem_cons_of_mem _ (ih block member)

end Runs

theorem Stage.Within.runs (within : stage.Within table) (context : ImageContext) (delta : UInt64)
    (inside : table.stop ≤ image.size) (applied : Nat) :
    ∃ trace last walked, Runs context delta table stage image trace last walked ∧
      ((∃ error, Stuck context table walked last error ∧
          stage.outcome context delta table applied image = ⟨walked, .error error⟩) ∨
        Finished table last ∧ stage.outcome context delta table applied image =
          ⟨walked, .ok (applied + trace.countP Event.isEntry)⟩) := by
  -- What is left of the table shrinks with each step, whatever the image holds by then.
  generalize left : table.stop - stage.reached = bytes
  induction bytes using Nat.strongRecOn generalizing stage image applied with
  | ind bytes ih =>
      have turn : Turn context delta table stage image := within.turn inside
      cases turn with
      | stuck stuck fails =>
          exact ⟨[], stage, image, .nil, Or.inl ⟨_, stuck, fails applied⟩⟩
      | finished finished counts =>
          exact ⟨[], stage, image, .nil, Or.inr ⟨finished, counts applied⟩⟩
      | step step goes =>
          have further := step.advances within
          have bound := (step.within within).reached_le
          obtain ⟨trace, last, walked, rest, ends⟩ := ih _ (by omega) (step.within within)
            (by rwa [step.follows.size]) _ rfl
          refine ⟨_, last, walked, .cons step rest, ?_⟩
          rw [goes, List.countP_cons, Nat.add_comm (trace.countP _), ← Nat.add_assoc]
          exact ends

end Runs

section Move

variable {last : Stage} {trace : List Event} {outcome : Outcome}

/-- What a walk through a table comes to. Its blocks stand one behind the other and in the table,
each entry stands in its block, also the one that the walk ends before, and only bytes of shifted
fields differ from the image it began with. -/
structure Walk (table : Span) (image : Window) (trace : List Event) (last : Stage)
    (walked : Window) : Prop where
  within : last.Within table
  length_le : 2 * trace.length ≤ table.stop - table.start
  row : Row last.following table.start (blocksOf trace)
  blocks : ∀ block ∈ blocksOf trace, block.Within table
  entries : ∀ block offset field, .performed block offset field ∈ trace →
    block ∈ blocksOf trace ∧ block.start + blockHeaderSize ≤ offset ∧ offset + 2 ≤ block.stop
  inner : ∀ block ∈ last.inner, block ∈ blocksOf trace
  fields : ∀ field ∈ shiftedBy trace, field.span.stop ≤ image.size
  follows : walked.Follows image
  kept : ∀ offset, (∀ field ∈ shiftedBy trace, ¬ field.span.Covers offset) →
    walked.byte offset = image.byte offset

theorem Runs.walk
    (runs : Runs context delta table (.block table.start) image trace last walked)
    (ordered : table.start ≤ table.stop) : Walk table image trace last walked where
  within := runs.within ⟨Nat.le_refl _, ordered⟩
  length_le := by
    have steps := runs.length_le ⟨Nat.le_refl _, ordered⟩
    have bound := (runs.within ⟨Nat.le_refl _, ordered⟩).reached_le
    simp only [Stage.reached] at steps bound
    omega
  row := runs.row
  blocks := runs.blocks_within ⟨Nat.le_refl _, ordered⟩
  entries _ _ _ member := runs.entries_within ⟨Nat.le_refl _, ordered⟩ member
  inner := runs.inner_opened
  fields := runs.fields_inside
  follows := runs.follows
  kept _ outside := runs.kept outside

/-- How a move ends where the walk cannot go on: with the error that the walk is stuck at, or, at
the end of the table, by writing the new address into the headers. -/
inductive Ends (context : ImageContext) (table : Span) (trace : List Event) (last : Stage)
    (walked : Window) : Outcome → Prop
  | stuck {error : RelocationError} (stuck : Stuck context table walked last error) :
      Ends context table trace last walked ⟨walked, .error error⟩
  | unrecorded (finished : Finished table last)
      (outside : ¬ (baseField context).span.stop ≤ walked.size) :
      Ends context table trace last walked ⟨walked, .error (.outOfBounds 0)⟩
  | recorded {moved : Window} (finished : Finished table last)
      (sets : moved.Sets walked (baseField context)
        ((context.imageBase + distance context).toNat % Nat.pow 256 (baseField context).width)) :
      Ends context table trace last walked ⟨moved, .ok (trace.countP Event.isEntry)⟩

theorem Ends.changed (ends : Ends context table trace last walked outcome)
    (walk : Walk table image trace last walked) {offset : Nat}
    (differs : outcome.image.byte offset ≠ image.byte offset) :
    (∃ field ∈ shiftedBy trace, field.span.Covers offset) ∨
      (∃ applied, outcome.result = .ok applied) ∧ (baseField context).span.Covers offset := by
  by_cases shifted : ∃ field ∈ shiftedBy trace, field.span.Covers offset
  · exact Or.inl shifted
  · have kept := walk.kept offset fun field member covers => shifted ⟨field, member, covers⟩
    cases ends with
    | stuck => exact absurd kept differs
    | unrecorded => exact absurd kept differs
    | recorded finished sets =>
        refine Or.inr ⟨⟨_, rfl⟩, Decidable.byContradiction fun outside => ?_⟩
        exact differs ((sets.kept offset outside).trans kept)

theorem table?_ordered (placed : table? context image = some table) :
    table.start ≤ table.stop := by
  obtain ⟨start, _, found⟩ := Option.bind_eq_some_iff.mp placed
  simp only at found
  split at found
  · cases found
    exact Nat.le_add_right _ _
  · cases found

theorem relocate_walks (moves : distance context ≠ 0)
    (movable : context.relocationsStripped = false) (placed : table? context image = some table) :
    ∃ trace last walked,
      Runs context (distance context) table (.block table.start) image trace last walked ∧
        Ends context table trace last walked (relocate context image) := by
  have first : Stage.Within table (.block table.start) :=
    ⟨Nat.le_refl _, table?_ordered placed⟩
  obtain ⟨trace, last, walked, runs, ends⟩ :=
    first.runs context (distance context) (table?_inside placed) 0
  refine ⟨trace, last, walked, runs, ?_⟩
  simp only [Stage.outcome, Nat.zero_add] at ends
  rw [relocate_eq image moves movable, placed]
  rcases ends with ⟨error, stuck, failed⟩ | ⟨finished, counted⟩
  · simp only [failed]
    exact .stuck stuck
  · simp only [counted]
    by_cases inside : (baseField context).span.stop ≤ walked.size
    · obtain ⟨moved, recorded, sets⟩ :=
        recordBase_sets (context.imageBase + distance context) inside
      rw [recorded]
      exact .recorded finished sets
    · rw [recordBase_none _ inside]
      exact .unrecorded finished inside

/-- Moving an image ends, whatever its table holds and whatever the shifted fields make of the
table. A move with nothing to do, one of a stripped image and one whose table is not in the image
change nothing. Any other is a walk of the table in the bounds of its start; it ends with the error
it is stuck at or writes the new address into the headers. If it fails, the bytes that differ
belong to fields that were shifted before. -/
theorem relocate_of_any_bytes (context : ImageContext) (image : Window) :
    (relocate context image).image.Follows image ∧
    if distance context = 0 then relocate context image = ⟨image, .ok 0⟩
    else if context.relocationsStripped then
      relocate context image = ⟨image, .error .relocationsStripped⟩
    else
      match table? context image with
      | none => relocate context image = ⟨image, .error (.outOfBounds context.relocations.rva)⟩
      | some table =>
          ∃ trace last walked,
            Runs context (distance context) table (.block table.start) image trace last walked ∧
            Walk table image trace last walked ∧
            Ends context table trace last walked (relocate context image) ∧
            ∀ offset, (relocate context image).image.byte offset ≠ image.byte offset →
              (∃ field ∈ shiftedBy trace, field.span.Covers offset) ∨
                (∃ applied, (relocate context image).result = .ok applied) ∧
                  (baseField context).span.Covers offset := by
  refine ⟨relocate_follows context image, ?_⟩
  split
  · rename_i still
    rw [relocate, if_pos still]
  · rename_i moves
    split
    · rename_i stripped
      rw [relocate, if_neg moves, if_pos stripped]
    · rename_i movable
      rw [Bool.not_eq_true] at movable
      split
      · rename_i placed
        rw [relocate_eq image moves movable, placed]
      · rename_i table placed
        obtain ⟨trace, last, walked, runs, ends⟩ := relocate_walks moves movable placed
        have walk := runs.walk (table?_ordered placed)
        exact ⟨trace, last, walked, runs, walk, ends, fun _ differs => ends.changed walk differs⟩

/-- An image whose table has two blocks. The first one names the size of the second one, which is
in order before the move. -/
def rewrittenTableImage : Window := Window.ofBytes <|
  List.replicate 48 0 ++ littleEndian 4 0 ++ littleEndian 4 12 ++ littleEndian 2 0x3040 ++
  littleEndian 2 0 ++ littleEndian 4 0 ++ littleEndian 4 8

example :
    let context := { oneBlockContext 0x3000 with relocations := ⟨48, 20⟩ }
    let outcome := relocate context rewrittenTableImage
    verdict context rewrittenTableImage = .ok 2 ∧ outcome.result = .error (.badBlock 60) ∧
      outcome.image.number ⟨64, 4⟩ = 0x2008 ∧ outcome.image.number ⟨16, 8⟩ = 0 := by
  decide +kernel

end Move

end Fixup

end PartitionBoot
