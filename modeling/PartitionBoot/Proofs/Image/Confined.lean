import Mathlib.Tactic.ByContra
import PartitionBoot.Proofs.Image.Loaded
import PartitionBoot.Proofs.Image.WriteOrExecute

/-!
What a load leaves alone. Finding the image and laying it out asks for nothing and changes nothing;
whatever happens after that, memory changes inside the image only.
-/

namespace PartitionBoot

variable {σ : Type}

/-- An image that was found and can be laid out: the address of its data and the window with it. -/
structure Sighting where
  address : UInt64
  image : Window

def Sighting.Covers (sighting : Sighting) (address : UInt64) : Prop :=
  sighting.address.toNat ≤ address.toNat ∧
    address.toNat < sighting.address.toNat + sighting.image.size

namespace Image

def sight (volume : Window) (address : UInt64) : Report BootFailure Sighting := do
  let location ← Volume.locateImage volume
  let image ← Report.require (volume.slice? location.offset location.size) .imageNotFound
  let dataAddress := address + UInt64.ofNat location.offset
  let _ ← computeLayout image dataAddress
  pure ⟨dataAddress, image⟩

variable {permissions : PagePermissions σ} {relocator : Relocator σ}
  {headerPageSize address : UInt64} {size : Nat} {memory : Memory} {outside : σ} {image : Window}

theorem sight_ok {volume : Window} {sighting : Sighting}
    (seen : (sight volume address).result = .ok sighting) :
    ∃ location laid, (Volume.locateImage volume).result = .ok location ∧
      volume.slice? location.offset location.size = some sighting.image ∧
      sighting.address = address + UInt64.ofNat location.offset ∧
      (computeLayout sighting.image sighting.address).result = .ok laid := by
  obtain ⟨location, located, seen⟩ := Report.bind_ok_iff.mp seen
  obtain ⟨image, cut, seen⟩ := Report.bind_ok_iff.mp seen
  obtain ⟨laid, layout, seen⟩ := Report.bind_ok_iff.mp seen
  cases seen
  exact ⟨location, laid, located, Report.require_ok_iff.mp cut, rfl, layout⟩

theorem sight_covers {sighting : Sighting} {place : UInt64}
    (seen : (sight (memory.window address.toNat size) address).result = .ok sighting)
    (inside : sighting.image.Covers place.toNat) : sighting.Covers place := by
  obtain ⟨location, _, _, cut, start, _⟩ := sight_ok seen
  obtain ⟨_, whole⟩ := Window.slice?_eq_some_iff.mp cut
  have bound := place.toNat_lt
  have limit : UInt64.size = 18446744073709551616 := rfl
  rw [whole] at inside
  simp only [Window.Covers, Memory.window] at inside
  -- A place behind the start has an address, so the start did not wrap.
  have unwrapped : sighting.address.toNat = address.toNat + location.offset := by
    simp only [start, UInt64.toNat_add, UInt64.toNat_ofNat']
    omega
  rw [Sighting.Covers, unwrapped, whole]
  exact inside

theorem load_stops {failure : BootFailure}
    (unseen : (sight (memory.window address.toNat size) address).result = .error failure) :
    (load permissions relocator headerPageSize address size).outcome ⟨memory, outside⟩ =
      (.error (.failed failure), ⟨memory, outside⟩) := by
  rw [load, Step.outcome_bind_get]
  obtain lost | ⟨location, located, unseen⟩ := Report.bind_error_iff.mp unseen
  · exact Step.outcome_bind_orStop_error _ lost
  rw [Step.outcome_bind_orStop_ok _ located]
  obtain sticking | ⟨image, cut, unseen⟩ := Report.bind_error_iff.mp unseen
  · exact Step.outcome_bind_orStop_error _ sticking
  rw [Step.outcome_bind_orStop_ok _ cut]
  obtain malformed | ⟨laid, layout, unseen⟩ := Report.bind_error_iff.mp unseen
  · exact Step.outcome_bind_orStop_error _ malformed
  · cases unseen

def Spared (image : Window) (machine : Machine σ) : Prop :=
  ∀ place, ¬ image.Covers place → machine.memory.read place = image.memory.read place

theorem meets_asking (step : Step σ BootFailure Unit) :
    (Machine.outsideStep step).orStop.Meets (Spared image) (Spared image) (Spared image) :=
  meets_orStop fun _ spared => ⟨spared, fun _ _ => spared⟩

theorem moveWith_spared (context : ImageContext) :
    (moveWith relocator context image).Meets (Spared image) (Spared image) (Spared image) := by
  intro machine spared
  have kept : Spared image ((moveWith relocator context image).outcome machine).2 := by
    intro place outside
    exact (relocator.confined context { image with memory := machine.memory } machine.outside place
      outside).trans (spared place outside)
  exact ⟨kept, fun _ _ => kept⟩

theorem relocateIfNeeded_spared (context : ImageContext) (layout : ImageLayout)
    (dataAddress : UInt64) :
    (relocateIfNeeded permissions relocator headerPageSize context layout image
      dataAddress).Meets (Spared image) (Spared image) (Spared image) := by
  simp only [relocateIfNeeded]
  split
  · refine Step.meets_bind (meets_note _ fun _ spared => spared) fun _ => ?_
    exact meets_ofReport (pure false) _
  · refine Step.meets_bind (meets_note _ fun _ spared => spared) fun _ => ?_
    refine Step.meets_bind (meets_asking _) fun _ => ?_
    refine Step.meets_bind (meets_asking _) fun _ => ?_
    refine Step.meets_bind (moveWith_spared _) fun _ => ?_
    refine Step.meets_bind (meets_asking _) fun _ => ?_
    exact meets_ofReport (pure true) _

theorem load_spared {sighting : Sighting}
    (seen : (sight (memory.window address.toNat size) address).result = .ok sighting) :
    Spared sighting.image
      ((load permissions relocator headerPageSize address size).outcome ⟨memory, outside⟩).2 := by
  obtain ⟨location, ⟨context, layout⟩, located, cut, start, laid⟩ := sight_ok seen
  rw [start] at laid
  rw [load, Step.outcome_bind_get, Step.outcome_bind_orStop_ok _ located,
    Step.outcome_bind_orStop_ok _ (Report.require_ok_iff.mpr cut),
    Step.outcome_bind_orStop_ok _ laid]
  have initially : Spared sighting.image (Machine.mk memory outside) := by
    obtain ⟨_, whole⟩ := Window.slice?_eq_some_iff.mp cut
    rw [whole]
    exact fun _ _ => rfl
  suffices meets : Step.Meets _ (Spared sighting.image) (Spared sighting.image)
      (Spared sighting.image) from (meets _ initially).1
  refine Step.meets_bind (meets_asking _) fun _ => ?_
  refine Step.meets_bind (relocateIfNeeded_spared _ _ _) fun relocated => ?_
  dsimp only
  split
  · refine Step.meets_bind (meets_note _ fun _ spared => spared) fun _ => ?_
    exact meets_ofReport (pure _) _
  · exact meets_ofReport (pure _) _

/-- Every byte that a load changes lies in the image that it found. -/
theorem load_confined {place : Nat}
    (changed : ((load permissions relocator headerPageSize address size).outcome
      ⟨memory, outside⟩).2.memory.read place ≠ memory.read place) :
    ∃ sighting, (sight (memory.window address.toNat size) address).result = .ok sighting ∧
      sighting.image.Covers place := by
  cases told : (sight (memory.window address.toNat size) address).result with
  | error failure =>
      rw [load_stops told] at changed
      exact absurd rfl changed
  | ok sighting =>
      refine ⟨sighting, rfl, ?_⟩
      by_contra uncovered
      obtain ⟨location, _, _, cut, _⟩ := sight_ok told
      obtain ⟨_, whole⟩ := Window.slice?_eq_some_iff.mp cut
      refine changed ((load_spared told place uncovered).trans ?_)
      rw [whole]
      rfl

end Image

end PartitionBoot
