import Mathlib.Order.Basic
import PartitionBoot.Boot.Sequence
import PartitionBoot.Proofs.Outcome
import PartitionBoot.Supervisor.PageTable

/-!
How a run ends and what its exit code tells. Only some of the codes with which the supervisor
refuses a call have an exit code of their own; the others are reported as zero, like a success.
-/

namespace PartitionBoot

/-- The supervisor's codes that become negative exit codes. -/
def CallError.HasExitCode (error : CallError) : Prop :=
  error = notSupported ∨ error = invalidParameters ∨ error = noData

instance (error : CallError) : Decidable error.HasExitCode :=
  inferInstanceAs (Decidable (_ ∨ _ ∨ _))

theorem CallError.exitCode_neg_iff (error : CallError) :
    error.status.exitCode < 0 ↔ error.HasExitCode := by
  cases error with
  | unknown code => simp [HasExitCode, status, Status.exitCode]
  | _ => decide

namespace BootFailure

def refusal? : BootFailure → Option CallError
  | versionQuery error => some error
  | permissionRefused _ _ error => some error
  | _ => none

/-- A failure that can be told from a success by its exit code. -/
def Reported (failure : BootFailure) : Prop :=
  ∀ error, failure.refusal? = some error → error.HasExitCode

theorem exitCode_neg_iff (failure : BootFailure) :
    failure.status.exitCode < 0 ↔ failure.Reported := by
  cases failure with
  | versionQuery error => simp [Reported, refusal?, status, error.exitCode_neg_iff]
  | permissionRefused change base error =>
      simp [Reported, refusal?, status, error.exitCode_neg_iff]
  | manifestMissing absence =>
      cases absence <;> simp [Reported, refusal?, status, ManifestAbsence.status, Status.exitCode]
  | _ => simp [Reported, refusal?, status, Status.exitCode]

end BootFailure

theorem Status.exitCode_nonpos (status : Status) : status.exitCode ≤ 0 := by
  cases status <;> decide

variable {σ : Type}

namespace Boot

theorem outcome_runModules {ε : Type} (context : BootContext) (modules : List (Module σ))
    (state : Partition σ) :
    (runModules context modules : Step (Partition σ) ε Unit).outcome state =
      (.ok (), modules.foldl (fun reached entry => ((entry.run context).outcome reached).2)
        state) := by
  induction modules generalizing state with
  | nil => rfl
  | cons entry rest ih =>
      rw [runModules, Step.outcome_bind_note, List.foldl_cons]
      rw [Step.outcome_bind, Step.outcome_recover]
      rcases (entry.run context).outcome state with ⟨impossible | _, reached⟩
      · exact nomatch impossible
      · exact ih reached

/-- A run ends as its boot does; after a boot that started, with what the modules make of it. -/
theorem outcome_run (platform : Platform σ) (config : BootConfig) (handOffAddress : UInt64)
    (modules : List (Module σ)) (partition : Partition σ) :
    (run platform config handOffAddress modules).outcome partition =
      match (bootstrap platform config handOffAddress).outcome partition with
      | (.ok (.started context), booted) =>
          (.ok 0, modules.foldl (fun reached entry => ((entry.run context).outcome reached).2)
            booted)
      | (.ok (.legacy _), booted) => (.ok 0, booted)
      | (.error (.failed failure), booted) => (.ok failure.status.exitCode, booted)
      | (.error (.halfMoved error), booted) => (.error error, booted) := by
  rcases found : (bootstrap platform config handOffAddress).outcome partition
    with ⟨(failure | error) | (context | peer), booted⟩
  all_goals
    obtain ⟨result, rfl⟩ := Prod.mk.inj found
    simp only [Step.outcome, run, result]
  · rfl
  · rfl
  · exact Step.outcome_bind_ok (outcome_runModules context modules _)
  · rfl

section

variable {platform : Platform σ} {config : BootConfig} {handOffAddress : UInt64}
  {partition : Partition σ}

theorem run_failed (modules : List (Module σ)) {failure : BootFailure}
    (failed : ((bootstrap platform config handOffAddress).outcome partition).1 =
      .error (.failed failure)) :
    ((run platform config handOffAddress modules).outcome partition).1 =
      .ok failure.status.exitCode := by
  have found : (bootstrap platform config handOffAddress).outcome partition =
      (.error (.failed failure), _) := Prod.ext failed rfl
  rw [outcome_run, found]

theorem run_halfMoved (modules : List (Module σ)) {error : RelocationError}
    (stuck : ((bootstrap platform config handOffAddress).outcome partition).1 =
      .error (.halfMoved error)) :
    ((run platform config handOffAddress modules).outcome partition).1 = .error error := by
  have found : (bootstrap platform config handOffAddress).outcome partition =
      (.error (.halfMoved error), _) := Prod.ext stuck rfl
  rw [outcome_run, found]

end

/-- That only a boot that went well has the exit code zero holds of exactly the runs whose boot does
not fail unreported. A boot that fails has a negative exit code exactly if it is reported. -/
theorem exit_code_tells_failure_iff (platform : Platform σ) (config : BootConfig)
    (handOffAddress : UInt64) (modules : List (Module σ)) (partition : Partition σ) :
    let booted := ((bootstrap platform config handOffAddress).outcome partition).1
    let ended := ((run platform config handOffAddress modules).outcome partition).1
    ((ended = .ok 0 → ∃ outcome, booted = .ok outcome) ↔
        ∀ failure, booted = .error (.failed failure) → failure.Reported) ∧
      ∀ failure, booted = .error (.failed failure) →
        ((∃ code, ended = .ok code ∧ code < 0) ↔ failure.Reported) := by
  intro booted ended
  constructor
  · constructor
    · intro succeeds failure failed
      rw [← failure.exitCode_neg_iff]
      -- No exit code is positive: one that is not negative is that of a success.
      rcases Int.lt_or_eq_of_le failure.status.exitCode_nonpos with negative | zero
      · exact negative
      · obtain ⟨outcome, good⟩ := succeeds ((run_failed modules failed).trans (by rw [zero]))
        cases failed.symm.trans good
    · intro reported zero
      rcases told : booted with (failure | error) | outcome
      · have negative := failure.exitCode_neg_iff.mpr (reported failure told)
        have same := Except.ok.inj ((run_failed modules told).symm.trans zero)
        omega
      · cases (run_halfMoved modules told).symm.trans zero
      · exact ⟨outcome, rfl⟩
  · intro failure failed
    rw [← failure.exitCode_neg_iff]
    constructor
    · rintro ⟨code, same, negative⟩
      cases (run_failed modules failed).symm.trans same
      exact negative
    · intro negative
      exact ⟨_, run_failed modules failed, negative⟩

def busySupervisor : Partition PageTable where
  memory := .zeroed
  allocator := none
  outside := ⟨0xfffffffc, 1, true, ∅⟩

def tablePlatform : Platform PageTable where
  conduit := PageTable.conduit
  permissions := PageTable.conduit.permissions
  relocator := .fixups

theorem busy_supervisor_boot_reported_as_success :
    let booted := ((bootstrap tablePlatform {} 0).outcome busySupervisor).1
    let ended := ((run tablePlatform {} 0 []).outcome busySupervisor).1
    booted = .error (.failed (.versionQuery .busy)) ∧ ended = .ok 0 := by
  decide +kernel

end Boot

end PartitionBoot
