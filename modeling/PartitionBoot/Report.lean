import PartitionBoot.Notice

/-!
Results that come with the notices made on the way. A `Report` is a result or an error together
with its notices; a `Step` is a report that also changes a state, and keeps the state it had
reached when it fails. `Report.result` turns a report into an `Except` and forgets the notices.
-/

namespace PartitionBoot

structure Report (ε α : Type) where
  result : Except ε α
  notices : List Notice

namespace Report

variable {ε δ α β : Type}

def note (notice : Notice) : Report ε Unit := ⟨.ok (), [notice]⟩

def fail (error : ε) : Report ε α := ⟨.error error, []⟩

def failNoting (notice : Notice) (error : ε) : Report ε α := ⟨.error error, [notice]⟩

def bind (report : Report ε α) (next : α → Report ε β) : Report ε β :=
  match report.result with
  | .ok value =>
      let later := next value
      ⟨later.result, report.notices ++ later.notices⟩
  | .error error => ⟨.error error, report.notices⟩

instance : Monad (Report ε) where
  pure value := ⟨.ok value, []⟩
  bind := bind

@[simp] theorem result_pure (value : α) : (pure value : Report ε α).result = .ok value := rfl

@[simp] theorem result_note (notice : Notice) : (note notice : Report ε Unit).result = .ok () := rfl

@[simp] theorem result_fail (error : ε) : (fail error : Report ε α).result = .error error := rfl

@[simp] theorem result_failNoting (notice : Notice) (error : ε) :
    (failNoting notice error : Report ε α).result = .error error := rfl

@[simp] theorem result_bind (report : Report ε α) (next : α → Report ε β) :
    (report >>= next).result = report.result.bind fun value => (next value).result := by
  show (bind report next).result = _
  cases found : report.result <;> simp [bind, found, Except.bind]

def require (value : Option α) (error : ε) : Report ε α :=
  match value with
  | some value => pure value
  | none => fail error

@[simp] theorem result_require (value : Option α) (error : ε) :
    (require value error).result =
      match value with
      | some value => .ok value
      | none => .error error := by
  cases value <;> rfl

def attempt (report : Report ε α) : Report δ (Except ε α) := ⟨.ok report.result, report.notices⟩

@[simp] theorem result_attempt (report : Report ε α) :
    (report.attempt : Report δ (Except ε α)).result = .ok report.result := rfl

def ofExcept (result : Except ε α) : Report ε α := ⟨result, []⟩

def recover (report : Report ε α) (handle : ε → Report δ α) : Report δ α :=
  match report.result with
  | .ok value => ⟨.ok value, report.notices⟩
  | .error error =>
      let handled := handle error
      ⟨handled.result, report.notices ++ handled.notices⟩

@[simp] theorem result_recover (report : Report ε α) (handle : ε → Report δ α) :
    (report.recover handle).result =
      match report.result with
      | .ok value => .ok value
      | .error error => (handle error).result := by
  cases found : report.result <;> simp [recover, found]

end Report

/-- A report that changes a state. The state is kept when the report is a failure. -/
def Step (σ ε α : Type) : Type := σ → Report ε α × σ

namespace Step

variable {σ ε δ α β : Type}

def bind (step : Step σ ε α) (next : α → Step σ ε β) : Step σ ε β := fun state =>
  match step state with
  | (⟨.ok value, notices⟩, reached) =>
      let later := next value reached
      (⟨later.1.result, notices ++ later.1.notices⟩, later.2)
  | (⟨.error error, notices⟩, reached) => (⟨.error error, notices⟩, reached)

instance : Monad (Step σ ε) where
  pure value := fun state => (pure value, state)
  bind := bind

def ofReport (report : Report ε α) : Step σ ε α := fun state => (report, state)

instance : MonadLift (Report ε) (Step σ ε) := ⟨ofReport⟩

instance : MonadStateOf σ (Step σ ε) where
  get := fun state => (pure state, state)
  set state := fun _ => (pure (), state)
  modifyGet change := fun state => (pure (change state).1, (change state).2)

def note (notice : Notice) : Step σ ε Unit := ofReport (Report.note notice)

def fail (error : ε) : Step σ ε α := ofReport (Report.fail error)

def recover (step : Step σ ε α) (handle : ε → Report δ α) : Step σ δ α := fun state =>
  let reached := step state
  (reached.1.recover handle, reached.2)

def focus {τ : Type} (part : τ → σ) (replace : τ → σ → τ) (step : Step σ ε α) : Step τ ε α :=
  fun state =>
    let reached := step (part state)
    (reached.1, replace state reached.2)

end Step

end PartitionBoot
