import PartitionBoot.Memory.Contents
import PartitionBoot.Proofs.Image.Loaded
import PartitionBoot.Proofs.Image.SectionAccess
import PartitionBoot.Proofs.Volume.Layout

/-!
The pages that the bytes of an image lie on while it is moved. Sections are protected before the
move, and only the header page is unlocked for it, so a byte that is changed lies on a read-only
page where the last section over its page is code or constants.
-/

namespace PartitionBoot

variable {σ : Type}

/-- A move of an image: the state of the supervisor while it is made, the image before it and the
memory after it. -/
structure Move (σ : Type) where
  world : σ
  before : Window
  after : Memory

def Move.Changes (move : Move σ) (address : Nat) : Prop :=
  move.after.read address ≠ move.before.memory.read address

instance (move : Move σ) (address : Nat) : Decidable (move.Changes address) :=
  inferInstanceAs (Decidable (_ ≠ _))

/-- Moves images by their fixups and keeps each move with the state of the supervisor, which a move
cannot change. -/
def Relocator.watched : Relocator (σ × List (Move σ)) where
  relocate context image world :=
    let (report, memory, _) := Relocator.fixups.relocate context image ()
    (report, memory, (world.1, world.2 ++ [⟨world.1, image, memory⟩]))
  confined context image _ := Relocator.fixups.confined context image ()

namespace Image

variable (keeper : PageKeeper σ)

/-- A page that is read-only while an image is moved: code or constants, and not unlocked with the
header. -/
def LockedInMove (layout : ImageLayout) (headerPageSize : UInt64) (sections : List ImageSection)
    (page : Nat) : Prop :=
  ¬ keeper.Spans layout.trueBase (Page.count headerPageSize) page ∧
    Locked keeper layout sections page

def Accounted (headerPageSize : UInt64) (move : Move σ) : Prop :=
  ∃ context layout,
    (computeLayout move.before (UInt64.ofNat move.before.base)).result = .ok (context, layout) ∧
      keeper.Tracks (fun _ => True)
        (LockedInMove keeper layout headerPageSize (sections move.before layout)) move.world

def Resting (memory : Memory) (property : σ → Prop) (machine : Machine (σ × List (Move σ))) :
    Prop :=
  machine.memory = memory ∧ Aside [] property machine.outside

def Recorded (headerPageSize : UInt64) (machine : Machine (σ × List (Move σ))) : Prop :=
  ∀ move ∈ machine.outside.2, Accounted keeper headerPageSize move

variable {keeper} {layout : ImageLayout} {headerPageSize : UInt64} {memory : Memory}
  {before after : σ → Prop}

theorem recorded_of_resting (machine : Machine (σ × List (Move σ)))
    (rests : Resting memory before machine) : Recorded keeper headerPageSize machine := by
  intro move made
  rw [rests.2.2] at made
  simp at made

theorem meets_resting {step : Step (σ × List (Move σ)) BootFailure Unit}
    (meets : step.Meets (Aside [] before) (Aside [] Anyhow) (Aside [] after)) :
    (Machine.outsideStep step).orStop.Meets (Resting memory before)
      (Recorded keeper headerPageSize) (Resting memory after) := by
  refine meets_orStop ?_
  rintro machine ⟨rfl, holds⟩
  obtain ⟨kept, reached⟩ := meets machine.outside holds
  exact ⟨recorded_of_resting _ ⟨rfl, kept⟩, fun value good => ⟨rfl, reached value good⟩⟩

theorem moveWith_recorded {image : Window} (whole : image.memory = memory)
    {context : ImageContext} (moved : ImageContext)
    (laid : (computeLayout image (UInt64.ofNat image.base)).result = .ok (context, layout)) :
    (moveWith Relocator.watched moved image : Step (Machine (σ × List (Move σ))) Stop Unit).Meets
      (Resting memory (keeper.Tracks (fun _ => True)
        (LockedInMove keeper layout headerPageSize (sections image layout))))
      (Recorded keeper headerPageSize) (Recorded keeper headerPageSize) := by
  subst whole
  rintro machine ⟨same, tracks, none⟩
  have recorded : Recorded keeper headerPageSize
      ((moveWith Relocator.watched moved image).outcome machine).2 := by
    intro move made
    simp only [Step.outcome, moveWith, Relocator.watched, none, same, List.nil_append,
      List.mem_singleton] at made
    subst made
    exact ⟨context, layout, laid, tracks⟩
  exact ⟨recorded, fun _ _ => recorded⟩

theorem request_recorded (change : PermissionChange) (base length : UInt64) :
    (Machine.outsideStep (keeper.conduit.permissions.inside.request change base
      length)).orStop.Meets (Recorded keeper headerPageSize) (Recorded keeper headerPageSize)
      (Recorded keeper headerPageSize) :=
  meets_orStop fun _ recorded => ⟨recorded, fun _ _ => recorded⟩

theorem relocateIfNeeded_recorded {image : Window} (whole : image.memory = memory)
    {context : ImageContext} (dataAddress : UInt64)
    (laid : (computeLayout image (UInt64.ofNat image.base)).result = .ok (context, layout)) :
    (relocateIfNeeded keeper.conduit.permissions.inside Relocator.watched headerPageSize context
      layout image dataAddress : Step (Machine (σ × List (Move σ))) Stop Bool).Meets
      (Resting memory (keeper.Tracks (fun _ => True)
        (Locked keeper layout (sections image layout))))
      (Recorded keeper headerPageSize) (Recorded keeper headerPageSize) := by
  simp only [relocateIfNeeded]
  split
  · refine Step.meets_bind (meets_note _ recorded_of_resting) fun _ => ?_
    exact Step.meets_still (fun _ => rfl) fun machine rests =>
      ⟨recorded_of_resting machine rests, recorded_of_resting machine rests⟩
  · refine Step.meets_bind (meets_note _ recorded_of_resting) fun _ => ?_
    refine Step.meets_bind
      (meets_resting (meets_change fun _ _ tracks changed => tracks.apart changed)) fun _ => ?_
    refine Step.meets_bind
      (meets_resting (meets_change fun _ _ tracks changed => tracks.unlocked changed)) fun _ => ?_
    refine Step.meets_bind (moveWith_recorded whole _ laid) fun _ => ?_
    refine Step.meets_bind (request_recorded _ _ _) fun _ => ?_
    exact meets_ofReport (pure true) _

theorem load_recorded (keeper : PageKeeper σ) (headerPageSize address : UInt64) (size : Nat)
    (memory : Memory) {initial : σ} (plain : keeper.Plain initial) :
    Recorded keeper headerPageSize ((load keeper.conduit.permissions.inside Relocator.watched
      headerPageSize address size).outcome ⟨memory, (initial, [])⟩).2 := by
  have meets : (load keeper.conduit.permissions.inside Relocator.watched headerPageSize address
      size : Step (Machine (σ × List (Move σ))) Stop LoadedImage).Meets
        (Resting memory keeper.Plain) (Recorded keeper headerPageSize)
        (Recorded keeper headerPageSize) := by
    refine Step.meets_bind_get ?_
    rintro machine ⟨rfl, holds⟩
    have rests (same : Machine (σ × List (Move σ))) (equal : same = machine) :
        Resting machine.memory keeper.Plain same := by
      subst equal
      exact ⟨rfl, holds⟩
    refine Step.Meets.restrict ?_ rests
    refine Step.meets_bind_orStop recorded_of_resting fun location _ => ?_
    refine Step.meets_bind_orStop recorded_of_resting fun image cut => ?_
    obtain ⟨_, rfl⟩ := Window.slice?_eq_some_iff.mp (Report.require_ok_iff.mp cut)
    refine Step.meets_bind_orStop recorded_of_resting ?_
    rintro ⟨context, layout⟩ laid
    -- The image is laid out for the address at which the window of the volume holds it.
    have place : UInt64.ofNat (address.toNat + location.offset) =
        address + UInt64.ofNat location.offset := by
      rw [UInt64.ofNat_add, UInt64.ofNat_toNat]
    rw [← place] at laid
    refine Step.meets_bind (meets_resting (protect_tracks _)) fun _ => ?_
    refine Step.meets_bind (relocateIfNeeded_recorded rfl _ laid) ?_
    intro relocated
    dsimp only
    split
    · exact Step.meets_bind (meets_note _ fun _ recorded => recorded) fun _ =>
        meets_ofReport (pure _) _
    · exact meets_ofReport (pure _) _
  exact (meets _ ⟨rfl, plain, rfl⟩).1

theorem request_moves {change : PermissionChange} {base length : UInt64} {value : Unit}
    {machine reached : Machine (σ × List (Move σ))}
    (done : (Machine.outsideStep (keeper.conduit.permissions.inside.request change base
      length)).orStop.outcome machine = (.ok value, reached)) :
    reached.outside.2 = machine.outside.2 :=
  congrArg (fun outcome => outcome.2.outside.2) done.symm

theorem relocateIfNeeded_moves {context : ImageContext} {image : Window} {dataAddress : UInt64}
    {machine reached : Machine (σ × List (Move σ))} {relocated : Bool}
    (done : (relocateIfNeeded keeper.conduit.permissions.inside Relocator.watched headerPageSize
      context layout image dataAddress).outcome machine = (.ok relocated, reached)) :
    reached.outside.2.length = machine.outside.2.length + if relocated then 1 else 0 := by
  simp only [relocateIfNeeded] at done
  split at done
  · rw [Step.outcome_bind_note, Step.outcome_pure] at done
    cases done
    rfl
  · rw [Step.outcome_bind_note] at done
    obtain ⟨_, first, unexecutable, done⟩ := Step.outcome_bind_ok_iff.mp done
    obtain ⟨_, second, unlocked, done⟩ := Step.outcome_bind_ok_iff.mp done
    obtain ⟨_, third, moved, done⟩ := Step.outcome_bind_ok_iff.mp done
    obtain ⟨_, fourth, locked, done⟩ := Step.outcome_bind_ok_iff.mp done
    rw [Step.outcome_pure] at done
    cases done
    have recorded : third.outside.2.length = second.outside.2.length + 1 := by
      rw [← congrArg (fun outcome => outcome.2.outside.2) moved]
      simp [Step.outcome, moveWith, Relocator.watched]
    rw [request_moves locked, recorded, request_moves unlocked, request_moves unexecutable]
    rfl

theorem load_moves (keeper : PageKeeper σ) (headerPageSize address : UInt64) (size : Nat)
    (memory : Memory) {initial : σ} (plain : keeper.Plain initial) {loaded : LoadedImage}
    {reached : Machine (σ × List (Move σ))}
    (done : (load keeper.conduit.permissions.inside Relocator.watched headerPageSize address
      size).outcome ⟨memory, (initial, [])⟩ = (.ok loaded, reached)) :
    reached.outside.2.length = if loaded.relocated then 1 else 0 := by
  obtain ⟨_, image, _, guarded, _, _, _, protects, moved, _⟩ := load_ok done
  have meets : (Machine.outsideStep (protect keeper.conduit.permissions.inside image
      loaded.layout)).orStop.Meets (Resting memory keeper.Plain) (Recorded keeper headerPageSize)
        (Resting memory _) := meets_resting (protect_tracks image)
  have rests := meets.reached ⟨rfl, plain, rfl⟩ protects
  have counted := relocateIfNeeded_moves moved
  rw [rests.2.2] at counted
  simpa using counted

/-- A load that moves its image does so once, on pages that are all writable before. The bytes that
the move changes lie on writable pages exactly if none of them lies on a page that is locked by the
last section over it and not unlocked with the header. -/
theorem moved_bytes_writable_iff (keeper : PageKeeper σ) (headerPageSize address : UInt64)
    (size : Nat) (memory : Memory) {initial : σ} (plain : keeper.Plain initial) :
    let run := (load keeper.conduit.permissions.inside Relocator.watched headerPageSize address
      size).outcome ⟨memory, (initial, [])⟩
    (∀ loaded, run.1 = .ok loaded →
        run.2.outside.2.length = if loaded.relocated then 1 else 0) ∧
      ∀ move ∈ run.2.outside.2, ∃ context layout,
        (computeLayout move.before (UInt64.ofNat move.before.base)).result =
            .ok (context, layout) ∧
          ((∀ place, move.Changes place → ¬ keeper.ReadOnly move.world (keeper.pageOf place)) ↔
            ∀ place, move.Changes place →
              ¬ LockedInMove keeper layout headerPageSize (sections move.before layout)
                (keeper.pageOf place)) := by
  intro run
  constructor
  · intro loaded good
    exact load_moves keeper headerPageSize address size memory plain (Prod.ext good rfl)
  · intro move made
    obtain ⟨context, layout, laid, tracks⟩ :=
      load_recorded keeper headerPageSize address size memory plain move made
    refine ⟨context, layout, laid, ?_⟩
    constructor
    · intro writable place changed locked
      exact writable place changed ((tracks _ trivial).mpr locked)
    · intro unlocked place changed readOnly
      exact unlocked place changed ((tracks _ trivial).mp readOnly)

/-- A stripped image that is linked at `0x40000`. Its one section begins at the page behind the
headers and holds an address in the image and the table that says where the address is. -/
def oneSectionImage (flags : UInt32) : List UInt8 :=
  littleEndian 2 teSignature.toNat ++ [0x64, 0xaa, 1, 0] ++ littleEndian 2 0xfd8 ++
    littleEndian 4 0x1000 ++ littleEndian 4 0x1000 ++ littleEndian 8 0x40000 ++
    littleEndian 4 0x1008 ++ littleEndian 4 12 ++ littleEndian 8 0 ++
  (littleEndian 8 0 ++ littleEndian 4 20 ++ littleEndian 4 0x1000 ++ littleEndian 20 0 ++
    littleEndian 4 flags.toNat) ++
  (littleEndian 8 0x41000 ++ littleEndian 4 0x1000 ++ littleEndian 4 12 ++
    littleEndian 2 0xa000 ++ littleEndian 2 0)

def oneSectionVolume (flags : UInt32) : Volume.FlatVolume where
  lead := List.replicate 32 0
  attributes := [0xff, 0xfe, 4, 0]
  checksum := [0, 0]
  revision := [0, 2]
  blockMap := []
  extension := none
  files := [
    ⟨List.replicate 18 0, Volume.coreFileKind, 0, 0, 0xf8,
      [⟨Volume.teKind, false, oneSectionImage flags⟩], fun _ => 0⟩]
  fill _ := 0xff
  erased := 0

def oneSectionLoad (flags : UInt32) :
    Except Stop LoadedImage × Machine (PageTable × List (Move PageTable)) :=
  let volume := (oneSectionVolume flags).bytes
  (load PageTable.keeper.conduit.permissions.inside Relocator.watched 0x1000 0x10f5c
    volume.length).outcome
      ⟨Memory.holding [(0x10f5c, Contents.ofBytes volume)], (⟨0x10001, 1, true, ∅⟩, [])⟩

theorem plain_table : PageTable.keeper.Plain ⟨0x10001, 1, true, ∅⟩ := by
  intro page
  simp [PageTable.keeper, PageTable.wordAt, AttributeWord.readWrite]

/-- A section of writable data is moved on writable pages. -/
theorem data_moves_on_writable_pages :
    let run := oneSectionLoad 0xc0000040
    run.1.toOption.map (·.relocated) = some true ∧
      ∃ move, run.2.outside.2 = [move] ∧ move.Changes 0x11002 ∧
        ∀ place, move.Changes place →
          ¬ PageTable.keeper.ReadOnly move.world (PageTable.keeper.pageOf place) := by
  intro run
  have moves : run.2.outside.2.map (fun move => (decide (move.Changes 0x11002),
      (computeLayout move.before (UInt64.ofNat move.before.base)).result.toOption.map fun laid =>
        (sections move.before laid.2).all fun entry => !(entry.isCode || !entry.isWritable))) =
      [(true, some true)] := by
    decide +kernel
  obtain ⟨move, single, facts⟩ := List.map_eq_singleton_iff.mp moves
  obtain ⟨changes, writable⟩ := Prod.mk.inj facts
  refine ⟨by decide +kernel, move, single, of_decide_eq_true changes, ?_⟩
  obtain ⟨context, layout, laid, iff⟩ := (moved_bytes_writable_iff PageTable.keeper 0x1000 0x10f5c
    _ _ plain_table).2 move (single ▸ List.mem_singleton_self move)
  refine iff.mpr fun place _ locked => ?_
  rw [laid] at writable
  refine not_locked ?_ _ locked.2
  intro entry member
  simpa using List.all_eq_true.mp (Option.some.inj writable) entry member

/-- A section of code is moved while its page is read-only. -/
theorem code_moves_on_read_only_page :
    let run := oneSectionLoad 0x60000020
    run.1.toOption.map (·.relocated) = some true ∧
      ¬ ∀ move ∈ run.2.outside.2, ∀ place, move.Changes place →
        ¬ PageTable.keeper.ReadOnly move.world (PageTable.keeper.pageOf place) := by
  intro run
  have moves : run.2.outside.2.map (fun move => (decide (move.Changes 0x11002),
      decide (PageTable.keeper.ReadOnly move.world (PageTable.keeper.pageOf 0x11002)))) =
      [(true, true)] := by
    decide +kernel
  obtain ⟨move, single, facts⟩ := List.map_eq_singleton_iff.mp moves
  obtain ⟨changes, readOnly⟩ := Prod.mk.inj facts
  refine ⟨by decide +kernel, fun writable => ?_⟩
  exact writable move (single ▸ List.mem_singleton_self move) 0x11002 (of_decide_eq_true changes)
    (of_decide_eq_true readOnly)

end Image

end PartitionBoot