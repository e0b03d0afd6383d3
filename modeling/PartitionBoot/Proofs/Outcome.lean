import PartitionBoot.Report

/-!
What a report and a step come to: their results and, of a step, the state it leaves, without the
notices made on the way.
-/

namespace PartitionBoot

namespace Step

variable {σ τ ε δ α β : Type}

def outcome (step : Step σ ε α) (state : σ) : Except ε α × σ :=
  ((step state).1.result, (step state).2)

@[simp] theorem outcome_pure (value : α) (state : σ) :
    (pure value : Step σ ε α).outcome state = (.ok value, state) := rfl

@[simp] theorem outcome_note (notice : Notice) (state : σ) :
    (note notice : Step σ ε Unit).outcome state = (.ok (), state) := rfl

@[simp] theorem outcome_fail (error : ε) (state : σ) :
    (fail error : Step σ ε α).outcome state = (.error error, state) := rfl

@[simp] theorem outcome_get (state : σ) :
    (get : Step σ ε σ).outcome state = (.ok state, state) := rfl

@[simp] theorem outcome_set (next state : σ) :
    (set next : Step σ ε PUnit).outcome state = (.ok ⟨⟩, next) := rfl

@[simp] theorem outcome_modify (change : σ → σ) (state : σ) :
    (modify change : Step σ ε PUnit).outcome state = (.ok ⟨⟩, change state) := rfl

@[simp] theorem outcome_ofReport (report : Report ε α) (state : σ) :
    (ofReport report : Step σ ε α).outcome state = (report.result, state) := rfl

theorem outcome_bind (step : Step σ ε α) (next : α → Step σ ε β) (state : σ) :
    (step >>= next).outcome state =
      match step.outcome state with
      | (.ok value, reached) => (next value).outcome reached
      | (.error error, reached) => (.error error, reached) := by
  show (bind step next).outcome state = _
  simp only [outcome, bind]
  split
  · rename_i value notices reached found
    simp [found]
  · rename_i error notices reached found
    simp [found]

theorem outcome_bind_ok {step : Step σ ε α} {next : α → Step σ ε β} {state reached : σ} {value : α}
    (first : step.outcome state = (.ok value, reached)) :
    (step >>= next).outcome state = (next value).outcome reached := by
  rw [outcome_bind, first]

theorem outcome_bind_error {step : Step σ ε α} {next : α → Step σ ε β} {state reached : σ}
    {error : ε} (first : step.outcome state = (.error error, reached)) :
    (step >>= next).outcome state = (.error error, reached) := by
  rw [outcome_bind, first]

theorem outcome_bind_ok_iff {step : Step σ ε α} {next : α → Step σ ε β} {state reached : σ}
    {value : β} :
    (step >>= next).outcome state = (.ok value, reached) ↔
      ∃ first middle, step.outcome state = (.ok first, middle) ∧
        (next first).outcome middle = (.ok value, reached) := by
  rw [outcome_bind]
  rcases step.outcome state with ⟨error | first, middle⟩
  · simp
  · constructor
    · intro after
      exact ⟨first, middle, rfl, after⟩
    · rintro ⟨_, _, same, after⟩
      cases same
      exact after

theorem outcome_bind_congr {step other : Step σ ε α} {next later : α → Step σ ε β} {state : σ}
    (first : step.outcome state = other.outcome state)
    (second : ∀ value reached, (next value).outcome reached = (later value).outcome reached) :
    (step >>= next).outcome state = (other >>= later).outcome state := by
  rw [outcome_bind, outcome_bind, first]
  simp only [second]

theorem outcome_bind_assoc {γ : Type} (step : Step σ ε α) (next : α → Step σ ε β)
    (last : β → Step σ ε γ) (state : σ) :
    ((step >>= next) >>= last).outcome state =
      (step >>= fun value => next value >>= last).outcome state := by
  rw [outcome_bind, outcome_bind, outcome_bind]
  rcases step.outcome state with ⟨error | value, reached⟩
  · rfl
  · exact (outcome_bind (next value) last reached).symm

theorem outcome_bind_get (next : σ → Step σ ε β) (state : σ) :
    (get >>= next).outcome state = (next state).outcome state := rfl

theorem outcome_bind_note (notice : Notice) (next : Unit → Step σ ε β) (state : σ) :
    (note notice >>= next).outcome state = (next ()).outcome state := rfl

theorem outcome_bind_ofReport_ok_iff {report : Report ε α} {next : α → Step σ ε β}
    {state reached : σ} {value : β} :
    (ofReport report >>= next).outcome state = (.ok value, reached) ↔
      ∃ told, report.result = .ok told ∧ (next told).outcome state = (.ok value, reached) := by
  rw [outcome_bind, outcome_ofReport]
  cases report.result <;> simp

theorem outcome_bind_still {step : Step σ ε α} {next : α → Step σ ε β} {state : σ}
    (still : ∀ value reached, ((next value).outcome reached).2 = reached) :
    ((step >>= next).outcome state).2 = (step.outcome state).2 := by
  rw [outcome_bind]
  rcases step.outcome state with ⟨error | value, reached⟩
  · rfl
  · exact still value reached

theorem outcome_map (change : α → β) (step : Step σ ε α) (state : σ) :
    (change <$> step).outcome state =
      match step.outcome state with
      | (.ok value, reached) => (.ok (change value), reached)
      | (.error error, reached) => (.error error, reached) :=
  outcome_bind step (fun value => pure (change value)) state

theorem outcome_recover (step : Step σ ε α) (handle : ε → Report δ α) (state : σ) :
    (step.recover handle).outcome state =
      match step.outcome state with
      | (.ok value, reached) => (.ok value, reached)
      | (.error error, reached) => ((handle error).result, reached) := by
  simp only [outcome, recover, Report.result_recover]
  cases (step state).1.result <;> rfl

theorem outcome_recover_ok_iff {step : Step σ ε α} {handle : ε → Report δ α}
    (fails : ∀ error value, (handle error).result ≠ .ok value) {state reached : σ} {value : α} :
    (step.recover handle).outcome state = (.ok value, reached) ↔
      step.outcome state = (.ok value, reached) := by
  rw [outcome_recover]
  rcases step.outcome state with ⟨error | found, middle⟩
  · simp [fails]
  · simp

theorem outcome_focus (part : τ → σ) (replace : τ → σ → τ) (step : Step σ ε α) (state : τ) :
    (focus part replace step).outcome state =
      ((step.outcome (part state)).1, replace state (step.outcome (part state)).2) := rfl

/-- From states with one property, a step always keeps to an invariant and reaches a state with
another property when it goes well. -/
def Meets (step : Step σ ε α) (before always after : σ → Prop) : Prop :=
  ∀ state, before state → always (step.outcome state).2 ∧
    ∀ value, (step.outcome state).1 = .ok value → after (step.outcome state).2

section Meets

variable {before always middle after : σ → Prop}

theorem meets_bind {step : Step σ ε α} {next : α → Step σ ε β}
    (first : step.Meets before always middle)
    (second : ∀ value, (next value).Meets middle always after) :
    (step >>= next).Meets before always after := by
  intro state holds
  obtain ⟨kept, reached⟩ := first state holds
  rw [outcome_bind]
  rcases found : step.outcome state with ⟨error | value, later⟩
  · rw [found] at kept
    exact ⟨kept, fun _ impossible => by cases impossible⟩
  · rw [found] at reached
    exact second value later (reached value rfl)

theorem meets_bind_ofReport {report : Report ε α} {next : α → Step σ ε β}
    (kept : ∀ state, before state → always state)
    (second : ∀ value, report.result = .ok value → (next value).Meets before always after) :
    (ofReport report >>= next).Meets before always after := by
  intro state holds
  rw [outcome_bind, outcome_ofReport]
  cases told : report.result with
  | error error => exact ⟨kept state holds, fun _ impossible => by cases impossible⟩
  | ok value => exact second value told state holds

theorem meets_bind_get {next : σ → Step σ ε β}
    (second : ∀ state, before state → (next state).Meets (· = state) always after) :
    (get >>= next).Meets before always after :=
  fun state holds => second state holds state rfl

theorem meets_still {step : Step σ ε α} (still : ∀ state, (step.outcome state).2 = state)
    (kept : ∀ state, before state → always state ∧ after state) :
    step.Meets before always after := by
  intro state holds
  rw [still]
  exact ⟨(kept state holds).1, fun _ _ => (kept state holds).2⟩

theorem Meets.reached {step : Step σ ε α} {state final : σ} {value : α}
    (meets : step.Meets before always after) (holds : before state)
    (done : step.outcome state = (.ok value, final)) : after final := by
  have reaches := (meets state holds).2 value
  rw [done] at reaches
  exact reaches rfl

theorem Meets.restrict {step : Step σ ε α} {narrower : σ → Prop}
    (meets : step.Meets before always after) (implied : ∀ state, narrower state → before state) :
    step.Meets narrower always after :=
  fun state holds => meets state (implied state holds)

theorem meets_recover {step : Step σ ε α} {handle : ε → Report δ α}
    (meets : step.Meets before always after)
    (fails : ∀ error value, (handle error).result ≠ .ok value) :
    (step.recover handle).Meets before always after := by
  intro state holds
  obtain ⟨kept, reached⟩ := meets state holds
  rw [outcome_recover]
  rcases found : step.outcome state with ⟨error | value, later⟩
  · rw [found] at kept
    exact ⟨kept, fun value good => absurd good (fails error value)⟩
  · rw [found] at kept reached
    exact ⟨kept, fun _ _ => reached value rfl⟩

theorem meets_focus {part : τ → σ} {replace : τ → σ → τ} {step : Step σ ε α}
    (meets : step.Meets before always after)
    (replaced : ∀ state value, part (replace state value) = value) :
    (focus part replace step).Meets (fun state => before (part state))
      (fun state => always (part state)) (fun state => after (part state)) := by
  intro state holds
  obtain ⟨kept, reached⟩ := meets (part state) holds
  simp only [outcome_focus, replaced]
  exact ⟨kept, reached⟩

end Meets

end Step

namespace Report

variable {ε α β : Type}

theorem bind_ok_iff {report : Report ε α} {next : α → Report ε β} {value : β} :
    (report >>= next).result = .ok value ↔
      ∃ first, report.result = .ok first ∧ (next first).result = .ok value := by
  rw [result_bind]
  cases report.result <;> simp [Except.bind]

theorem bind_error_iff {report : Report ε α} {next : α → Report ε β} {error : ε} :
    (report >>= next).result = .error error ↔
      report.result = .error error ∨
        ∃ first, report.result = .ok first ∧ (next first).result = .error error := by
  rw [result_bind]
  cases report.result <;> simp [Except.bind]

theorem recover_ok_iff {δ : Type} {report : Report ε α} {handle : ε → Report δ α} {value : α}
    (fails : ∀ error value, (handle error).result ≠ .ok value) :
    (report.recover handle).result = .ok value ↔ report.result = .ok value := by
  rw [result_recover]
  cases report.result <;> simp [fails]

theorem require_ok_iff {found : Option α} {error : ε} {value : α} :
    (require found error).result = .ok value ↔ found = some value := by
  cases found <;> simp

section FailsOnly

variable {possible : ε → Prop}

def FailsOnly (possible : ε → Prop) (report : Report ε α) : Prop :=
  ∀ error, report.result = .error error → possible error

theorem failsOnly_pure (value : α) : (pure value : Report ε α).FailsOnly possible := by
  intro error failed
  cases failed

theorem failsOnly_fail {error : ε} (holds : possible error) :
    (fail error : Report ε α).FailsOnly possible := by
  intro _ failed
  cases failed
  exact holds

theorem failsOnly_failNoting {error : ε} (notice : Notice) (holds : possible error) :
    (failNoting notice error : Report ε α).FailsOnly possible := by
  intro _ failed
  cases failed
  exact holds

theorem failsOnly_require {error : ε} (value : Option α) (holds : possible error) :
    (require value error).FailsOnly possible := by
  cases value with
  | none => exact failsOnly_fail holds
  | some value => exact failsOnly_pure value

theorem failsOnly_bind {report : Report ε α} {next : α → Report ε β}
    (first : report.FailsOnly possible)
    (second : ∀ value, report.result = .ok value → (next value).FailsOnly possible) :
    (report >>= next).FailsOnly possible := by
  intro error failed
  obtain stopped | ⟨value, told, stopped⟩ := bind_error_iff.mp failed
  · exact first error stopped
  · exact second value told error stopped

theorem FailsOnly.mono {wider : ε → Prop} {report : Report ε α}
    (fails : report.FailsOnly possible) (implied : ∀ error, possible error → wider error) :
    report.FailsOnly wider :=
  fun error failed => implied error (fails error failed)

theorem failsOnly_recover {δ : Type} {wider : δ → Prop} {report : Report ε α}
    {handle : ε → Report δ α} (fails : report.FailsOnly possible)
    (handled : ∀ error, possible error → (handle error).FailsOnly wider) :
    (report.recover handle).FailsOnly wider := by
  intro error failed
  rw [result_recover] at failed
  cases told : report.result with
  | ok value =>
      rw [told] at failed
      cases failed
  | error first =>
      rw [told] at failed
      exact handled first (fails first told) error failed

theorem failsOnly_handled {δ : Type} {wider : δ → Prop} {report : Report ε α}
    {handle : ε → Report δ α} (handled : ∀ error, (handle error).FailsOnly wider) :
    (report.recover handle).FailsOnly wider := by
  have any : report.FailsOnly fun _ => True := fun _ _ => trivial
  exact failsOnly_recover any fun error _ => handled error

end FailsOnly

end Report

namespace Step

variable {σ τ ε δ α β : Type} {possible : ε → Prop}

def FailsOnly (possible : ε → Prop) (step : Step σ ε α) : Prop :=
  ∀ state, (step state).1.FailsOnly possible

theorem failsOnly_ofReport {report : Report ε α} (fails : report.FailsOnly possible) :
    (ofReport report : Step σ ε α).FailsOnly possible :=
  fun _ => fails

theorem failsOnly_pure (value : α) : (pure value : Step σ ε α).FailsOnly possible :=
  fun _ => Report.failsOnly_pure value

theorem failsOnly_note (notice : Notice) : (note notice : Step σ ε Unit).FailsOnly possible := by
  intro _ _ failed
  cases failed

theorem failsOnly_get : (get : Step σ ε σ).FailsOnly possible := by
  intro _ _ failed
  cases failed

theorem failsOnly_bind {step : Step σ ε α} {next : α → Step σ ε β}
    (first : step.FailsOnly possible) (second : ∀ value, (next value).FailsOnly possible) :
    (step >>= next).FailsOnly possible := by
  intro state error failed
  have ended : ((step >>= next).outcome state).1 = .error error := failed
  rw [outcome_bind] at ended
  rcases found : step.outcome state with ⟨early | value, reached⟩
  · rw [found] at ended
    cases ended
    exact first state _ (congrArg Prod.fst found)
  · rw [found] at ended
    exact second value reached error ended

theorem failsOnly_recover {wider : δ → Prop} {step : Step σ ε α} {handle : ε → Report δ α}
    (fails : step.FailsOnly possible)
    (handled : ∀ error, possible error → (handle error).FailsOnly wider) :
    (step.recover handle).FailsOnly wider :=
  fun state => Report.failsOnly_recover (fails state) handled

theorem failsOnly_handled {wider : δ → Prop} {step : Step σ ε α} {handle : ε → Report δ α}
    (handled : ∀ error, (handle error).FailsOnly wider) : (step.recover handle).FailsOnly wider :=
  fun _ => Report.failsOnly_handled handled

theorem failsOnly_focus {part : τ → σ} {replace : τ → σ → τ} {step : Step σ ε α}
    (fails : step.FailsOnly possible) : (focus part replace step).FailsOnly possible :=
  fun state => fails (part state)

end Step

theorem eq_of_toOption {ε α : Type} {result other : Except ε α}
    (same : result.toOption = other.toOption) (success : result.toOption.isSome) :
    result = other := by
  cases result with
  | error error => cases success
  | ok value =>
      cases other with
      | error error => cases same
      | ok also =>
          cases same
          rfl

end PartitionBoot
