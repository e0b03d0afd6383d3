import PartitionBoot.Proofs.Outcome
import PartitionBoot.Supervisor.PagePermissions

/-!
Requests for permission changes, made one after the other until one is refused.
-/

namespace PartitionBoot

variable {σ : Type}

structure PermissionRequest where
  change : PermissionChange
  base : UInt64
  length : UInt64
deriving DecidableEq

namespace PermissionRequest

def failure (asked : PermissionRequest) (error : CallError) : BootFailure :=
  .permissionRefused asked.change asked.base error

def each (changes : List PermissionChange) (base length : UInt64) : List PermissionRequest :=
  changes.map fun change => ⟨change, base, length⟩

end PermissionRequest

namespace PagePermissions

def answer (permissions : PagePermissions σ) (asked : PermissionRequest) :
    Step σ CallError Unit :=
  permissions.update asked.change asked.base asked.length

/-- All requests are granted, each in the state that the one in front of it left. -/
def Grants (permissions : PagePermissions σ) : List PermissionRequest → σ → σ → Prop
  | [], state, reached => reached = state
  | asked :: rest, state, reached => ∃ middle,
      (permissions.answer asked).outcome state = (.ok (), middle) ∧
        permissions.Grants rest middle reached

def Refuses (permissions : PagePermissions σ) (before : List PermissionRequest)
    (asked : PermissionRequest) (error : CallError) (state reached : σ) : Prop :=
  ∃ middle, permissions.Grants before state middle ∧
    (permissions.answer asked).outcome middle = (.error error, reached)

def requestAll (permissions : PagePermissions σ) :
    List PermissionRequest → Step σ BootFailure Unit
  | [] => pure ()
  | asked :: rest => do
      permissions.request asked.change asked.base asked.length
      permissions.requestAll rest

variable {permissions : PagePermissions σ} {asked : PermissionRequest}
  {first rest before after : List PermissionRequest} {state middle reached : σ} {error : CallError}

theorem grants_append :
    permissions.Grants (first ++ rest) state reached ↔
      ∃ middle, permissions.Grants first state middle ∧ permissions.Grants rest middle reached := by
  induction first generalizing state with
  | nil => simp [Grants]
  | cons asked more ih =>
      simp only [List.cons_append, Grants, ih]
      constructor
      · rintro ⟨next, granted, middle, front, back⟩
        exact ⟨middle, ⟨next, granted, front⟩, back⟩
      · rintro ⟨middle, ⟨next, granted, front⟩, back⟩
        exact ⟨next, granted, middle, front, back⟩

theorem grants_singleton :
    permissions.Grants [asked] state reached ↔
      (permissions.answer asked).outcome state = (.ok (), reached) := by
  simp only [Grants, exists_eq_right']

theorem request_granted (granted : (permissions.answer asked).outcome state = (.ok (), reached)) :
    (permissions.request asked.change asked.base asked.length).outcome state =
      (.ok (), reached) := by
  rw [request, Step.outcome_recover]
  rw [answer] at granted
  rw [granted]

theorem request_refused
    (refused : (permissions.answer asked).outcome state = (.error error, reached)) :
    (permissions.request asked.change asked.base asked.length).outcome state =
      (.error (asked.failure error), reached) := by
  rw [request, Step.outcome_recover]
  rw [answer] at refused
  rw [refused]
  rfl

theorem requestAll_granted (granted : permissions.Grants first state reached) :
    (permissions.requestAll first).outcome state = (.ok (), reached) := by
  induction first generalizing state with
  | nil =>
      cases granted
      rfl
  | cons asked more ih =>
      obtain ⟨middle, front, back⟩ := granted
      rw [requestAll, Step.outcome_bind_ok (request_granted front)]
      exact ih back

theorem requestAll_singleton (permissions : PagePermissions σ) (asked : PermissionRequest)
    (state : σ) :
    (permissions.requestAll [asked]).outcome state =
      (permissions.request asked.change asked.base asked.length).outcome state := by
  rw [requestAll, Step.outcome_bind]
  rcases (permissions.request asked.change asked.base asked.length).outcome state with
    ⟨error | ⟨⟩, reached⟩ <;> rfl

theorem requestAll_append (permissions : PagePermissions σ) (first rest : List PermissionRequest)
    (state : σ) :
    (permissions.requestAll (first ++ rest)).outcome state =
      (permissions.requestAll first >>= fun _ => permissions.requestAll rest).outcome state := by
  induction first generalizing state with
  | nil => rfl
  | cons asked more ih =>
      rw [List.cons_append, requestAll, requestAll, Step.outcome_bind_assoc]
      exact Step.outcome_bind_congr rfl fun _ reached => ih reached

theorem requestAll_refused (refuses : permissions.Refuses before asked error state reached) :
    (permissions.requestAll (before ++ asked :: after)).outcome state =
      (.error (asked.failure error), reached) := by
  obtain ⟨middle, granted, refused⟩ := refuses
  rw [requestAll_append, Step.outcome_bind_ok (requestAll_granted granted), requestAll,
    Step.outcome_bind_error (request_refused refused)]

theorem answer_cases (permissions : PagePermissions σ) (asked : PermissionRequest) (state : σ) :
    (∃ reached, permissions.Grants [asked] state reached) ∨
      ∃ error reached, permissions.Refuses [] asked error state reached := by
  rcases told : (permissions.answer asked).outcome state with ⟨error | ⟨⟩, reached⟩
  · exact .inr ⟨error, reached, state, rfl, told⟩
  · exact .inl ⟨reached, grants_singleton.mpr told⟩

theorem grants_or_refuses (permissions : PagePermissions σ) (all : List PermissionRequest)
    (state : σ) :
    (∃ reached, permissions.Grants all state reached) ∨
      ∃ before asked after error reached, all = before ++ asked :: after ∧
        permissions.Refuses before asked error state reached := by
  induction all generalizing state with
  | nil => exact .inl ⟨state, rfl⟩
  | cons asked more ih =>
      rcases front : (permissions.answer asked).outcome state with ⟨error | ⟨⟩, middle⟩
      · exact .inr ⟨[], asked, more, error, middle, rfl, state, rfl, front⟩
      · rcases ih middle with ⟨reached, granted⟩ | ⟨before, later, after, error, reached, rfl, cut⟩
        · exact .inl ⟨reached, middle, front, granted⟩
        · obtain ⟨last, granted, refused⟩ := cut
          exact .inr ⟨asked :: before, later, after, error, reached, rfl, last,
            ⟨middle, front, granted⟩, refused⟩

end PagePermissions

end PartitionBoot
