import PartitionBoot.Proofs.Outcome
import PartitionBoot.Proofs.Page
import PartitionBoot.Supervisor.PageTable

/-!
Supervisors that keep one attribute word per page. Their calls are logged together with the state
after each of them, so that what holds between any two calls can be said of the log.
-/

namespace PartitionBoot

/-- A supervisor that keeps one attribute word per page. It reports the word of a page or an error,
and stores a word for all pages of a request or none; when it refuses is up to its state. -/
structure PageKeeper (σ : Type) where
  conduit : Conduit σ
  page : UInt64 → Nat
  word : σ → Nat → AttributeWord
  get : ∀ base state,
    let (answer, reached) := conduit.call (Registers.call FunctionId.permissionGet [base]) state
    word reached = word state ∧
      ∀ granted, answer.success = .ok granted → ⟨granted.x2.toUInt32⟩ = word state (page base)
  set : ∀ base count bits state,
    let (answer, reached) :=
      conduit.call (Registers.call FunctionId.permissionSet [base, count, bits]) state
    (∀ error, answer.success = .error error → word reached = word state) ∧
    ∀ granted, answer.success = .ok granted → ∀ other,
      ((∃ index, index < count.toNat ∧ page (base + UInt64.ofNat (index * Page.size)) = other) →
        word reached other = ⟨bits.toUInt32⟩) ∧
      ((∀ index, index < count.toNat → page (base + UInt64.ofNat (index * Page.size)) ≠ other) →
        word reached other = word state other)

def AttributeWord.WritableExecutable (word : AttributeWord) : Prop :=
  word.bits &&& dataAccess.bits = readWrite.bits ∧ word.bits &&& nonExecutable.bits = 0

structure Exchange (σ : Type) where
  call : Registers
  answer : Registers
  reached : σ

/-- A supervisor together with its calls so far, the latest first. -/
structure Logged (σ : Type) where
  state : σ
  log : List (Exchange σ)

variable {σ : Type}

def Conduit.logged (conduit : Conduit σ) : Conduit (Logged σ) where
  call registers logged :=
    let (answer, reached) := conduit.call registers logged.state
    (answer, ⟨reached, ⟨registers, answer, reached⟩ :: logged.log⟩)

theorem Registers.x0_call (function : UInt64) (arguments : List UInt64) :
    (Registers.call function arguments).x0 = function := by
  simp [Registers.call, Registers.x0]

theorem Registers.x1_call (function first : UInt64) (rest : List UInt64) :
    (Registers.call function (first :: rest)).x1 = first := by
  simp [Registers.call, Registers.x1]

theorem Registers.x2_call (function first second : UInt64) (rest : List UInt64) :
    (Registers.call function (first :: second :: rest)).x2 = second := by
  simp [Registers.call, Registers.x2]

namespace PageKeeper

variable (keeper : PageKeeper σ)

def Spans (base count : UInt64) (page : Nat) : Prop :=
  ∃ index, index < count.toNat ∧ keeper.page (base + UInt64.ofNat (index * Page.size)) = page

def Stores (exchange : Exchange σ) (page : Nat) : Prop :=
  exchange.call.x0 = FunctionId.permissionSet ∧
    (∃ granted, exchange.answer.success = .ok granted) ∧
    keeper.Spans exchange.call.x1 exchange.call.x2 page

/-- No page that a call stored is writable and executable, neither after any later call nor at
the end. -/
structure Guarded (logged : Logged σ) : Prop where
  now : ∀ exchange ∈ logged.log, ∀ page, keeper.Stores exchange page →
    ¬ (keeper.word logged.state page).WritableExecutable
  ever : ∀ later moment earlier, logged.log = later ++ moment :: earlier →
    ∀ exchange ∈ moment :: earlier, ∀ page, keeper.Stores exchange page →
      ¬ (keeper.word moment.reached page).WritableExecutable

variable {keeper}

theorem Guarded.extend {logged : Logged σ} (guarded : keeper.Guarded logged)
    {call answer : Registers} {reached : σ}
    (next : ∀ exchange ∈ ⟨call, answer, reached⟩ :: logged.log, ∀ page,
      keeper.Stores exchange page → ¬ (keeper.word reached page).WritableExecutable) :
    keeper.Guarded ⟨reached, ⟨call, answer, reached⟩ :: logged.log⟩ where
  now := next
  ever later found earlier split := by
    cases later with
    | nil =>
        cases split
        exact next
    | cons first rest =>
        rw [List.cons_append, List.cons.injEq] at split
        exact guarded.ever rest found earlier split.2

theorem outcome_request {ε : Type} {function : UInt64} {arguments : List UInt64}
    {logged : Logged σ} {answer : Registers} {reached : σ}
    (made : keeper.conduit.call (Registers.call function arguments) logged.state =
      (answer, reached)) :
    (keeper.conduit.logged.request function arguments : Step (Logged σ) ε Registers).outcome
      logged = (.ok answer,
        ⟨reached, ⟨Registers.call function arguments, answer, reached⟩ :: logged.log⟩) := by
  simp only [Conduit.request, Step.outcome, Conduit.logged, made, Report.result_pure]

theorem attributes_cases (base : UInt64) {logged : Logged σ} (guarded : keeper.Guarded logged) :
    ∃ reached, keeper.Guarded reached ∧ keeper.word reached.state = keeper.word logged.state ∧
      ((∃ error, (keeper.conduit.logged.attributes base).outcome logged =
          (.error error, reached)) ∨
        (keeper.conduit.logged.attributes base).outcome logged =
          (.ok (keeper.word logged.state (keeper.page base)), reached)) := by
  have law := keeper.get base logged.state
  rcases made : keeper.conduit.call (Registers.call FunctionId.permissionGet [base]) logged.state
    with ⟨answer, reached⟩
  rw [made] at law
  obtain ⟨kept, told⟩ := law
  refine ⟨⟨reached, ⟨Registers.call FunctionId.permissionGet [base], answer, reached⟩ ::
    logged.log⟩, guarded.extend ?_, kept, ?_⟩
  · intro exchange member page stored
    rcases List.mem_cons.mp member with rfl | old
    · have function := stored.1
      rw [Registers.x0_call] at function
      exact absurd function (by decide)
    · rw [kept]
      exact guarded.now exchange old page stored
  · simp only [Conduit.attributes]
    rw [Step.outcome_bind_ok (outcome_request made)]
    cases success : answer.success with
    | error error =>
        left
        exact ⟨error, rfl⟩
    | ok granted =>
        right
        rw [← told granted success]
        rfl

theorem setAttributes_cases (base length : UInt64) (word : AttributeWord) {logged : Logged σ}
    (guarded : keeper.Guarded logged)
    (safe : 0 < Page.spanning length.toNat → ¬ word.WritableExecutable) :
    ∃ reached, keeper.Guarded reached ∧
      ((∃ error, (keeper.conduit.logged.setAttributes base length word).outcome logged =
          (.error error, reached)) ∨
        (keeper.conduit.logged.setAttributes base length word).outcome logged =
            (.ok (), reached) ∧
          (0 < Page.spanning length.toNat →
            keeper.word reached.state (keeper.page base) = word)) := by
  obtain ⟨count, counted⟩ : ∃ count, UInt64.ofNat (Page.spanning length.toNat) = count :=
    ⟨_, rfl⟩
  have number : count.toNat = Page.spanning length.toNat := by
    have bound := length.toNat_lt
    have fewer := Page.spanning_le length.toNat
    rw [← counted, UInt64.toNat_ofNat', Nat.mod_eq_of_lt (by omega)]
  have law := keeper.set base count word.bits.toUInt64 logged.state
  rcases made : keeper.conduit.call (Registers.call FunctionId.permissionSet
    [base, count, word.bits.toUInt64]) logged.state with ⟨answer, reached⟩
  rw [made] at law
  obtain ⟨refused, stored⟩ := law
  refine ⟨⟨reached, ⟨Registers.call FunctionId.permissionSet [base, count, word.bits.toUInt64],
    answer, reached⟩ :: logged.log⟩, guarded.extend ?_, ?_⟩
  · intro exchange member page mine
    cases success : answer.success with
    | error error =>
        rw [refused error success]
        rcases List.mem_cons.mp member with rfl | old
        · obtain ⟨granted, good⟩ := mine.2.1
          rw [success] at good
          cases good
        · exact guarded.now exchange old page mine
    | ok granted =>
        obtain ⟨inside, outside⟩ := stored granted success page
        by_cases spanned : keeper.Spans base count page
        · have positive : 0 < Page.spanning length.toNat := by
            obtain ⟨index, bound, _⟩ := spanned
            omega
          rw [inside spanned]
          simpa using safe positive
        · rw [outside fun index bound same => spanned ⟨index, bound, same⟩]
          rcases List.mem_cons.mp member with rfl | old
          · have span := mine.2.2
            rw [Registers.x1_call, Registers.x2_call] at span
            exact absurd span spanned
          · exact guarded.now exchange old page mine
  · simp only [Conduit.setAttributes, counted]
    rw [Step.outcome_bind_ok (outcome_request made)]
    cases success : answer.success with
    | error error =>
        left
        exact ⟨error, rfl⟩
    | ok granted =>
        right
        refine ⟨rfl, fun some => ?_⟩
        rw [(stored granted success _).1 ⟨0, by omega, by simp⟩]
        simp

theorem meets_update (change : PermissionChange) (base length : UInt64)
    {before after : Logged σ → Prop} (guarded : ∀ logged, before logged → keeper.Guarded logged)
    (safe : ∀ logged, before logged → 0 < Page.spanning length.toNat →
      ¬ (change.apply (keeper.word logged.state (keeper.page base))).WritableExecutable)
    (reaches : ∀ logged, keeper.Guarded logged →
      (0 < Page.spanning length.toNat →
        ∃ word, keeper.word logged.state (keeper.page base) = change.apply word) →
      after logged) :
    (keeper.conduit.logged.permissions.update change base length).Meets before keeper.Guarded
      after := by
  intro logged holds
  obtain ⟨read, readGuarded, sameWords, outcome⟩ := attributes_cases base (guarded logged holds)
  simp only [Conduit.permissions]
  rcases outcome with ⟨error, failed⟩ | found
  · rw [Step.outcome_bind_error failed]
    exact ⟨readGuarded, fun _ impossible => by cases impossible⟩
  · rw [Step.outcome_bind_ok found]
    obtain ⟨stored, storedGuarded, outcome⟩ := setAttributes_cases base length
      (change.apply (keeper.word logged.state (keeper.page base))) readGuarded (safe logged holds)
    rcases outcome with ⟨error, failed⟩ | ⟨done, word⟩
    · rw [failed]
      exact ⟨storedGuarded, fun _ impossible => by cases impossible⟩
    · rw [done]
      exact ⟨storedGuarded, fun _ _ => reaches stored storedGuarded fun positive =>
        ⟨_, word positive⟩⟩

end PageKeeper

namespace AttributeWord

theorem setNoExec_safe (word : AttributeWord) :
    ¬ (PermissionChange.setNoExec.apply word).WritableExecutable := by
  rintro ⟨_, executable⟩
  have bit : ((word.bits ||| 4) &&& 4).toBitVec[2] = false := by
    rw [show (word.bits ||| 4) &&& 4 = 0 from executable]
    decide
  simp at bit

theorem setReadOnly_safe (word : AttributeWord) :
    ¬ (PermissionChange.setReadOnly.apply word).WritableExecutable := by
  rintro ⟨writable, _⟩
  have bit : (((word.bits &&& ~~~3) ||| 3) &&& 3).toBitVec[1] = false := by
    rw [show ((word.bits &&& ~~~3) ||| 3) &&& 3 = 1 from writable]
    decide
  simp at bit

theorem clearReadOnly_setNoExec_safe (word : AttributeWord) :
    ¬ (PermissionChange.clearReadOnly.apply
      (PermissionChange.setNoExec.apply word)).WritableExecutable := by
  rintro ⟨_, executable⟩
  have bit : ((((word.bits ||| 4) &&& ~~~3) ||| 1) &&& 4).toBitVec[2] = false := by
    rw [show (((word.bits ||| 4) &&& ~~~3) ||| 1) &&& 4 = 0 from executable]
    decide
  simp at bit

end AttributeWord

end PartitionBoot
