import PartitionBoot.Image.Loading
import PartitionBoot.Proofs.Supervisor.PageKeeper

/-!
Loading an image never leaves a page that it touched writable and executable. Data is made writable
right after it was made non-executable, at the same place, so the word that is read then is the one
that was just stored.
-/

namespace PartitionBoot

variable {σ τ ρ : Type}

def PagePermissions.inside (permissions : PagePermissions τ) : PagePermissions (τ × ρ) where
  update change base length :=
    Step.focus Prod.fst (fun world part => (part, world.2))
      (permissions.update change base length)

def Relocator.inside (relocator : Relocator ρ) : Relocator (τ × ρ) where
  relocate context image world :=
    let (report, memory, part) := relocator.relocate context image world.2
    (report, memory, (world.1, part))
  confined context image world := relocator.confined context image world.2

namespace Image

variable {keeper : PageKeeper σ} {before after : Logged σ → Prop}

def Outside (property : Logged σ → Prop) (world : Logged σ × ρ) : Prop := property world.1

def Beside (property : Logged σ → Prop) (machine : Machine (Logged σ × ρ)) : Prop :=
  property machine.outside.1

def Unexecutable (keeper : PageKeeper σ) (base length : UInt64) (logged : Logged σ) : Prop :=
  keeper.Guarded logged ∧ (0 < Page.spanning length.toNat →
    ∃ word, keeper.word logged.state (keeper.page base) = PermissionChange.setNoExec.apply word)

theorem meets_request {change : PermissionChange} {base length : UInt64}
    (meets : (keeper.conduit.logged.permissions.update change base length).Meets before
      keeper.Guarded after) :
    (keeper.conduit.logged.permissions.inside.request change base length :
      Step (Logged σ × ρ) BootFailure Unit).Meets
        (Outside before) (Outside keeper.Guarded) (Outside after) := by
  refine Step.meets_recover (Step.meets_focus meets fun _ _ => rfl) ?_
  intro error value good
  simp at good

theorem meets_setNoExec (base length : UInt64) :
    (keeper.conduit.logged.permissions.update .setNoExec base length).Meets keeper.Guarded
      keeper.Guarded (Unexecutable keeper base length) :=
  PageKeeper.meets_update _ _ _ (fun _ guarded => guarded)
    (fun _ _ _ => AttributeWord.setNoExec_safe _) fun _ guarded word => ⟨guarded, word⟩

theorem meets_setReadOnly (base length : UInt64) :
    (keeper.conduit.logged.permissions.update .setReadOnly base length).Meets keeper.Guarded
      keeper.Guarded keeper.Guarded :=
  PageKeeper.meets_update _ _ _ (fun _ guarded => guarded)
    (fun _ _ _ => AttributeWord.setReadOnly_safe _) fun _ guarded _ => guarded

theorem meets_clearReadOnly (base length : UInt64) :
    (keeper.conduit.logged.permissions.update .clearReadOnly base length).Meets
      (Unexecutable keeper base length) keeper.Guarded keeper.Guarded := by
  refine PageKeeper.meets_update _ _ _ (fun _ holds => holds.1) ?_ fun _ guarded _ => guarded
  intro logged holds positive
  obtain ⟨word, stored⟩ := holds.2 positive
  rw [stored]
  exact AttributeWord.clearReadOnly_setNoExec_safe word

theorem meets_note {ε : Type} (notice : Notice) {before always : τ → Prop}
    (kept : ∀ state, before state → always state) :
    (Step.note notice : Step τ ε Unit).Meets before always before :=
  Step.meets_still (fun _ => rfl) fun state holds => ⟨kept state holds, holds⟩

theorem meets_ofReport {ε α : Type} (report : Report ε α) (property : τ → Prop) :
    (Step.ofReport report).Meets property property property :=
  Step.meets_still (fun _ => rfl) fun _ holds => ⟨holds, holds⟩

theorem protectSection_guarded (entry : ImageSection) (base : UInt64) :
    (protectSection keeper.conduit.logged.permissions.inside entry base :
      Step (Logged σ × ρ) BootFailure Unit).Meets
        (Outside keeper.Guarded) (Outside keeper.Guarded) (Outside keeper.Guarded) := by
  simp only [protectSection]
  split
  · refine Step.meets_bind (meets_note _ fun _ holds => holds) ?_
    intro _
    exact meets_request (meets_setReadOnly _ _)
  · refine Step.meets_bind (meets_request (meets_setNoExec base entry.size.toUInt64)) ?_
    intro _
    split
    · refine Step.meets_bind (meets_note _ fun _ holds => holds.1) ?_
      intro _
      exact meets_request (meets_clearReadOnly _ _)
    · refine Step.meets_bind ?_ fun _ => meets_request (meets_setReadOnly _ _)
      exact Step.meets_still (fun _ => rfl) fun _ holds => ⟨holds.1, holds.1⟩

theorem protectFrom_guarded (image : Window) (layout : ImageLayout) (index count : Nat) :
    (protectFrom keeper.conduit.logged.permissions.inside image layout index count :
      Step (Logged σ × ρ) BootFailure Unit).Meets
        (Outside keeper.Guarded) (Outside keeper.Guarded) (Outside keeper.Guarded) := by
  induction count generalizing index with
  | zero => exact meets_ofReport (pure ()) _
  | succ count ih =>
      refine Step.meets_bind (meets_ofReport _ _) ?_
      intro entry
      split
      · refine Step.meets_bind (meets_ofReport _ _) ?_
        intro base
        exact Step.meets_bind (protectSection_guarded entry base) fun _ => ih (index + 1)
      · exact ih (index + 1)

theorem meets_orStop {α : Type} {step : Step τ BootFailure α} {first always last : τ → Prop}
    (meets : step.Meets first always last) : step.orStop.Meets first always last :=
  Step.meets_recover meets fun _ _ good => by cases good

theorem meets_outsideStep {step : Step (Logged σ × ρ) BootFailure Unit}
    {always : Logged σ → Prop} (meets : step.Meets (Outside before) (Outside always)
      (Outside after)) :
    (Machine.outsideStep step).orStop.Meets (Beside before) (Beside always) (Beside after) :=
  meets_orStop (Step.meets_focus meets fun _ _ => rfl)

theorem moveWith_guarded (relocator : Relocator ρ) (context : ImageContext) (image : Window) :
    (moveWith relocator.inside context image :
      Step (Machine (Logged σ × ρ)) Stop Unit).Meets
        (Beside keeper.Guarded) (Beside keeper.Guarded) (Beside keeper.Guarded) :=
  fun _ guarded => ⟨guarded, fun _ _ => guarded⟩

theorem relocateIfNeeded_guarded (relocator : Relocator ρ) (headerPageSize : UInt64)
    (context : ImageContext) (layout : ImageLayout) (image : Window) (dataAddress : UInt64) :
    (relocateIfNeeded keeper.conduit.logged.permissions.inside relocator.inside headerPageSize
      context layout image dataAddress : Step (Machine (Logged σ × ρ)) Stop Bool).Meets
        (Beside keeper.Guarded) (Beside keeper.Guarded) (Beside keeper.Guarded) := by
  simp only [relocateIfNeeded]
  split
  · refine Step.meets_bind (meets_note _ fun _ holds => holds) ?_
    intro _
    exact meets_ofReport (pure false) _
  · refine Step.meets_bind (meets_note _ fun _ holds => holds) ?_
    intro _
    refine Step.meets_bind
      (meets_outsideStep (meets_request (meets_setNoExec layout.trueBase headerPageSize))) ?_
    intro _
    refine Step.meets_bind (meets_outsideStep (meets_request (meets_clearReadOnly _ _))) ?_
    intro _
    refine Step.meets_bind (moveWith_guarded relocator _ _) ?_
    intro _
    refine Step.meets_bind (meets_outsideStep (meets_request (meets_setReadOnly _ _))) ?_
    intro _
    exact meets_ofReport (pure true) _

/-- However an image is laid out, whatever the supervisor refuses and wherever loading stops: no
page that a call of this load stored a word for is both writable and executable, neither between
two calls nor at the end. -/
theorem load_write_or_execute (keeper : PageKeeper σ) (relocator : Relocator ρ)
    (headerPageSize address : UInt64) (size : Nat) (memory : Memory) (initial : σ) (world : ρ) :
    keeper.Guarded ((load keeper.conduit.logged.permissions.inside relocator.inside
      headerPageSize address size).outcome ⟨memory, (⟨initial, []⟩, world)⟩).2.outside.1 := by
  have meets : (load keeper.conduit.logged.permissions.inside relocator.inside headerPageSize
      address size : Step (Machine (Logged σ × ρ)) Stop LoadedImage).Meets
        (Beside keeper.Guarded) (Beside keeper.Guarded) (Beside keeper.Guarded) := by
    refine Step.meets_bind (Step.meets_still (fun _ => rfl) fun _ holds => ⟨holds, holds⟩) ?_
    intro machine
    refine Step.meets_bind (meets_orStop (meets_ofReport _ _)) ?_
    intro location
    refine Step.meets_bind (meets_orStop (meets_ofReport _ _)) ?_
    intro image
    refine Step.meets_bind (meets_orStop (meets_ofReport _ _)) ?_
    rintro ⟨context, layout⟩
    refine Step.meets_bind (meets_outsideStep (protectFrom_guarded image layout 0 _)) ?_
    intro _
    refine Step.meets_bind (relocateIfNeeded_guarded _ _ _ _ _ _) ?_
    intro relocated
    dsimp only
    split
    · refine Step.meets_bind (meets_note _ fun _ holds => holds) ?_
      intro _
      exact meets_ofReport (pure _) _
    · exact meets_ofReport (pure _) _
  exact (meets _ ⟨by simp, by simp⟩).1

end Image

end PartitionBoot
