import Mathlib.Order.Basic
import PartitionBoot.Proofs.Supervisor.PageTable

/-!
Permission changes page by page. A change is meant for one field of the attribute word of every
page in its range. The word it stores is made from the word of the first page, so the other field
of a page is left alone exactly where the page agrees on it with the first one.
-/

namespace PartitionBoot

namespace Page

def start (address : UInt64) : UInt64 := UInt64.ofNat (address.toNat / size * size)

def count (length : UInt64) : UInt64 := UInt64.ofNat (spanning length.toNat)

theorem toNat_count (length : UInt64) : (count length).toNat = spanning length.toNat := by
  have bound := length.toNat_lt
  have fewer := spanning_le length.toNat
  rw [count, UInt64.toNat_ofNat', Nat.mod_eq_of_lt (by omega)]

theorem start_add {base : UInt64} (aligned : base.toNat % size = 0) (offset : Nat) :
    start (base + UInt64.ofNat offset) = base + UInt64.ofNat (offset / size * size) := by
  apply UInt64.toNat_inj.mp
  have bound := base.toNat_lt
  simp only [start, size, UInt64.toNat_ofNat', UInt64.toNat_add] at aligned ⊢
  omega

end Page

namespace AttributeWord

def field (word mask : AttributeWord) : UInt32 := word.bits &&& mask.bits

theorem bits_or_and (left right mask : UInt32) :
    (left ||| right) &&& mask = left &&& mask ||| right &&& mask := by
  apply UInt32.toBitVec_inj.mp
  simp only [UInt32.toBitVec_and, UInt32.toBitVec_or, BitVec.and_or_distrib_right]

theorem field_withoutExecution (word mask : AttributeWord) :
    word.withoutExecution.field mask = word.field mask ||| nonExecutable.field mask :=
  bits_or_and word.bits nonExecutable.bits mask.bits

theorem field_withDataAccess (word access mask : AttributeWord) :
    (word.withDataAccess access).field mask =
      word.bits &&& (~~~dataAccess.bits &&& mask.bits) ||| access.field mask := by
  rw [← UInt32.and_assoc]
  exact bits_or_and (word.bits &&& ~~~dataAccess.bits) access.bits mask.bits

theorem field_or_self (word mask : AttributeWord) :
    word.field mask ||| mask.field mask = mask.bits := by
  apply UInt32.toBitVec_inj.mp
  ext index bound
  simp only [field, UInt32.toBitVec_and, UInt32.toBitVec_or, BitVec.getElem_and,
    BitVec.getElem_or]
  cases mask.bits.toBitVec[index] <;> simp

end AttributeWord

namespace PermissionChange

def subject : PermissionChange → AttributeWord
  | setNoExec => .nonExecutable
  | setReadOnly | clearReadOnly => .dataAccess

def wanted : PermissionChange → AttributeWord
  | setNoExec => .nonExecutable
  | setReadOnly => .readOnly
  | clearReadOnly => .readWrite

def spared : PermissionChange → AttributeWord
  | setNoExec => .dataAccess
  | setReadOnly | clearReadOnly => .nonExecutable

theorem subject_apply (change : PermissionChange) (word : AttributeWord) :
    (change.apply word).field change.subject = change.wanted.bits := by
  have cleared : ~~~AttributeWord.dataAccess.bits &&& AttributeWord.dataAccess.bits = 0 := by
    decide
  cases change with
  | setNoExec =>
      rw [apply, AttributeWord.field_withoutExecution]
      exact AttributeWord.field_or_self word .nonExecutable
  | setReadOnly | clearReadOnly =>
      rw [apply, AttributeWord.field_withDataAccess, subject, cleared, UInt32.and_zero,
        UInt32.zero_or]
      decide

theorem spared_apply (change : PermissionChange) (word : AttributeWord) :
    (change.apply word).field change.spared = word.field change.spared := by
  have apart : ~~~AttributeWord.dataAccess.bits &&& AttributeWord.nonExecutable.bits =
      AttributeWord.nonExecutable.bits := by
    decide
  cases change with
  | setNoExec =>
      rw [apply, AttributeWord.field_withoutExecution]
      exact UInt32.or_zero
  | setReadOnly | clearReadOnly =>
      rw [apply, AttributeWord.field_withDataAccess, spared, apart]
      exact UInt32.or_zero

end PermissionChange

variable {σ : Type}

theorem Conduit.outcome_request {ε : Type} {conduit : Conduit σ} {function : UInt64}
    {arguments : List UInt64} {answer : Registers} {state reached : σ}
    (made : conduit.call (Registers.call function arguments) state = (answer, reached)) :
    (conduit.request function arguments : Step σ ε Registers).outcome state =
      (.ok answer, reached) := by
  simp only [Conduit.request, Step.outcome, made, Report.result_pure]

namespace PageKeeper

/-- A page that holds a byte of `[base, base + length)`. Addresses wrap. -/
def Overlaps (keeper : PageKeeper σ) (base length : UInt64) (page : Nat) : Prop :=
  ∃ offset, offset < length.toNat ∧
    keeper.page (Page.start (base + UInt64.ofNat offset)) = page

variable {keeper : PageKeeper σ} {base length : UInt64} {state reached : σ}

theorem overlaps_iff_spans (aligned : base.toNat % Page.size = 0) (page : Nat) :
    keeper.Overlaps base length page ↔ keeper.Spans base (Page.count length) page := by
  have size : Page.size = 4096 := rfl
  simp only [Overlaps, Spans, Page.toNat_count, Page.spanning, Page.start_add aligned, size]
  constructor
  · rintro ⟨offset, bound, same⟩
    refine ⟨offset / 4096, ?_, same⟩
    split <;> omega
  · rintro ⟨index, bound, same⟩
    refine ⟨index * 4096, ?_, ?_⟩
    · split at bound <;> omega
    · rw [Nat.mul_div_cancel _ (by decide)]
      exact same

theorem attributes_ok {word : AttributeWord}
    (done : (keeper.conduit.attributes base).outcome state = (.ok word, reached)) :
    word = keeper.word state (keeper.page base) ∧ keeper.word reached = keeper.word state := by
  have law := keeper.get base state
  rcases made : keeper.conduit.call (Registers.call FunctionId.permissionGet [base]) state
    with ⟨answer, middle⟩
  rw [made] at law
  rw [Conduit.attributes, Step.outcome_bind_ok (Conduit.outcome_request made)] at done
  obtain ⟨granted, success, told⟩ := Step.outcome_bind_ofReport_ok_iff.mp done
  cases told
  exact ⟨law.2 granted success, law.1⟩

theorem setAttributes_ok {word : AttributeWord}
    (done : (keeper.conduit.setAttributes base length word).outcome state = (.ok (), reached))
    (page : Nat) :
    (keeper.Spans base (Page.count length) page → keeper.word reached page = word) ∧
      (¬ keeper.Spans base (Page.count length) page →
        keeper.word reached page = keeper.word state page) := by
  have law := keeper.set base (Page.count length) word.bits.toUInt64 state
  rcases made : keeper.conduit.call (Registers.call FunctionId.permissionSet
    [base, Page.count length, word.bits.toUInt64]) state with ⟨answer, middle⟩
  rw [made] at law
  obtain ⟨response, asked, request, rest⟩ := Step.outcome_bind_ok_iff.mp done
  cases (Conduit.outcome_request made).symm.trans request
  obtain ⟨granted, success, noted⟩ := Step.outcome_bind_ofReport_ok_iff.mp rest
  rw [Step.outcome_note] at noted
  cases noted
  obtain ⟨inside, outside⟩ := law.2 granted success page
  refine ⟨fun spanned => ?_, fun apart => ?_⟩
  · rw [inside spanned]
    simp
  · exact outside fun index bound same => apart ⟨index, bound, same⟩

theorem update_ok {change : PermissionChange}
    (done : (keeper.conduit.permissions.update change base length).outcome state =
      (.ok (), reached)) (page : Nat) :
    (keeper.Spans base (Page.count length) page →
        keeper.word reached page = change.apply (keeper.word state (keeper.page base))) ∧
      (¬ keeper.Spans base (Page.count length) page →
        keeper.word reached page = keeper.word state page) := by
  obtain ⟨word, middle, read, stored⟩ := Step.outcome_bind_ok_iff.mp done
  obtain ⟨rfl, same⟩ := attributes_ok read
  have changed := setAttributes_ok stored page
  rw [same] at changed
  exact changed

/-- A change that goes well makes of its field what it should on every page of its range and leaves
every other page alone. What it leaves of the other field is what the first page has there: no page
loses its own exactly if all agree with the first one. -/
theorem update_spares_iff {change : PermissionChange} (aligned : base.toNat % Page.size = 0)
    (done : (keeper.conduit.permissions.update change base length).outcome state =
      (.ok (), reached)) :
    (∀ page, ¬ keeper.Overlaps base length page →
        keeper.word reached page = keeper.word state page) ∧
      (∀ page, keeper.Overlaps base length page →
        (keeper.word reached page).field change.subject = change.wanted.bits) ∧
      ((∀ page, keeper.Overlaps base length page →
          (keeper.word reached page).field change.spared =
            (keeper.word state page).field change.spared) ↔
        ∀ page, keeper.Overlaps base length page →
          (keeper.word state page).field change.spared =
            (keeper.word state (keeper.page base)).field change.spared) := by
  have inside (page : Nat) (held : keeper.Overlaps base length page) :
      keeper.word reached page = change.apply (keeper.word state (keeper.page base)) :=
    (update_ok done page).1 ((overlaps_iff_spans aligned page).mp held)
  refine ⟨?_, ?_, ?_⟩
  · intro page apart
    exact (update_ok done page).2 fun spanned =>
      apart ((overlaps_iff_spans aligned page).mpr spanned)
  · intro page held
    rw [inside page held, change.subject_apply]
  · constructor
    · intro kept page held
      rw [← kept page held, inside page held, change.spared_apply]
    · intro agree page held
      rw [inside page held, change.spared_apply, agree page held]

end PageKeeper

namespace PageTable

@[irreducible] def twoPages (first second : UInt64) : PageTable where
  version := 0x10001
  fallback := 1
  aligned := true
  pages := ((∅ : Std.TreeMap Nat UInt64).insert 0x4000 first).insert 0x5000 second

/-- A writable and a read-only page that both may not execute: made read-only, neither may. -/
theorem update_spares_agreeing_pages :
    let table := twoPages 0b101 0b111
    let outcome := (keeper.conduit.permissions.update .setReadOnly 0x4000 0x1800).outcome table
    outcome.1 = .ok () ∧ ∀ page, keeper.Overlaps 0x4000 0x1800 page →
      (keeper.word outcome.2 page).field .nonExecutable =
        (keeper.word table page).field .nonExecutable := by
  intro table outcome
  have aligned : (0x4000 : UInt64).toNat % Page.size = 0 := by decide
  have fine : outcome.1 = .ok () := by decide +kernel
  have done : (keeper.conduit.permissions.update .setReadOnly 0x4000 0x1800).outcome table =
      (.ok (), _) := Prod.ext fine rfl
  obtain ⟨-, -, spares⟩ := PageKeeper.update_spares_iff aligned done
  refine ⟨fine, spares.mpr ?_⟩
  intro page held
  obtain ⟨index, bound, same⟩ := (PageKeeper.overlaps_iff_spans aligned page).mp held
  have two : index = 0 ∨ index = 1 := by
    have number : (Page.count 0x1800).toNat = 2 := by decide
    omega
  subst same
  rcases two with rfl | rfl <;> decide +kernel

/-- A page that may not execute behind one that may: when both are made read-only, it may. -/
theorem read_only_update_lets_page_execute :
    let table := twoPages 0b001 0b101
    let outcome := (keeper.conduit.permissions.update .setReadOnly 0x4000 0x1800).outcome table
    outcome.1 = .ok () ∧ ¬ ∀ page, keeper.Overlaps 0x4000 0x1800 page →
      (keeper.word outcome.2 page).field .nonExecutable =
        (keeper.word table page).field .nonExecutable := by
  intro table outcome
  refine ⟨by decide +kernel, fun kept => ?_⟩
  have held : keeper.Overlaps 0x4000 0x1800 0x5000 := ⟨0x1000, by decide, by decide⟩
  have before : (keeper.word table 0x5000).field .nonExecutable = 4 := by decide +kernel
  have after : (keeper.word outcome.2 0x5000).field .nonExecutable = 0 := by decide +kernel
  have same := kept 0x5000 held
  rw [before, after] at same
  exact absurd same (by decide)

end PageTable

end PartitionBoot
