import PartitionBoot.Image.Loading
import PartitionBoot.Proofs.Outcome

/-!
What a load that goes well has done: the image that its volume locates was laid out where it lies,
protected, and moved if it had to be.
-/

namespace PartitionBoot

variable {σ : Type}

theorem Step.outcome_orStop_ok_iff {τ α : Type} {step : Step τ BootFailure α} {state reached : τ}
    {value : α} :
    step.orStop.outcome state = (.ok value, reached) ↔ step.outcome state = (.ok value, reached) :=
  Step.outcome_recover_ok_iff fun _ _ good => by cases good

theorem Step.outcome_bind_orStop_ok_iff {τ α β : Type} {report : Report BootFailure α}
    {next : α → Step τ Stop β} {state reached : τ} {value : β} :
    ((Step.ofReport report).orStop >>= next).outcome state = (.ok value, reached) ↔
      ∃ told, report.result = .ok told ∧ (next told).outcome state = (.ok value, reached) := by
  rw [outcome_bind, orStop, outcome_recover, outcome_ofReport]
  cases report.result <;> simp

theorem Step.outcome_bind_orStop_ok {τ α β : Type} {report : Report BootFailure α}
    {next : α → Step τ Stop β} {value : α} (state : τ) (told : report.result = .ok value) :
    ((Step.ofReport report).orStop >>= next).outcome state = (next value).outcome state := by
  rw [outcome_bind, orStop, outcome_recover, outcome_ofReport, told]

theorem Step.outcome_bind_orStop_error {τ α β : Type} {report : Report BootFailure α}
    {next : α → Step τ Stop β} {failure : BootFailure} (state : τ)
    (told : report.result = .error failure) :
    ((Step.ofReport report).orStop >>= next).outcome state = (.error (.failed failure), state) := by
  rw [outcome_bind, orStop, outcome_recover, outcome_ofReport, told]
  rfl

theorem Step.meets_bind_orStop {τ α β : Type} {report : Report BootFailure α}
    {next : α → Step τ Stop β} {before always after : τ → Prop}
    (kept : ∀ state, before state → always state)
    (second : ∀ value, report.result = .ok value → (next value).Meets before always after) :
    ((Step.ofReport report).orStop >>= next).Meets before always after := by
  intro state holds
  rw [outcome_bind, orStop, outcome_recover, outcome_ofReport]
  cases told : report.result with
  | error failure => exact ⟨kept state holds, fun _ impossible => by cases impossible⟩
  | ok value => exact second value told state holds

namespace Image

variable {permissions : PagePermissions σ} {relocator : Relocator σ}
  {headerPageSize address : UInt64} {size : Nat} {machine reached : Machine σ}
  {loaded : LoadedImage}

theorem load_ok
    (done : (load permissions relocator headerPageSize address size).outcome machine =
      (.ok loaded, reached)) :
    ∃ location image context guarded,
      (Volume.locateImage (machine.memory.window address.toNat size)).result = .ok location ∧
      (machine.memory.window address.toNat size).slice? location.offset location.size =
        some image ∧
      (computeLayout image loaded.dataAddress).result = .ok (context, loaded.layout) ∧
      (Machine.outsideStep (protect permissions image loaded.layout)).orStop.outcome machine =
        (.ok (), guarded) ∧
      (relocateIfNeeded permissions relocator headerPageSize context loaded.layout image
        loaded.dataAddress).outcome guarded = (.ok loaded.relocated, reached) ∧
      loaded.dataAddress = address + UInt64.ofNat location.offset ∧
      loaded.context = { context with imageAddress := loaded.dataAddress } ∧
      loaded.size = location.size := by
  rw [load, Step.outcome_bind_get] at done
  obtain ⟨location, located, done⟩ := Step.outcome_bind_orStop_ok_iff.mp done
  obtain ⟨image, cut, done⟩ := Step.outcome_bind_orStop_ok_iff.mp done
  obtain ⟨⟨context, layout⟩, laid, done⟩ := Step.outcome_bind_orStop_ok_iff.mp done
  obtain ⟨_, guarded, protects, done⟩ := Step.outcome_bind_ok_iff.mp done
  obtain ⟨relocated, moved, move, done⟩ := Step.outcome_bind_ok_iff.mp done
  have made : loaded = {
      context := { context with imageAddress := address + UInt64.ofNat location.offset }
      layout
      dataAddress := address + UInt64.ofNat location.offset
      size := location.size
      relocated } ∧ reached = moved := by
    dsimp only at done
    split at done
    all_goals
      cases done
      exact ⟨rfl, rfl⟩
  obtain ⟨rfl, rfl⟩ := made
  exact ⟨location, image, context, guarded, located, Report.require_ok_iff.mp cut, laid, protects,
    move, rfl, rfl, rfl⟩

end Image

end PartitionBoot
