import PartitionBoot.Proofs.Supervisor.PageKeeper

/-!
The page table as a supervisor that keeps one word per page.
-/

namespace PartitionBoot

namespace PageTable

theorem success_call (arguments : List UInt64) :
    (Registers.call FunctionId.success arguments).success =
      .ok (Registers.call FunctionId.success arguments) := by
  have other : FunctionId.success ≠ FunctionId.error := by decide
  rw [Registers.success, Registers.error?, Registers.x0_call, if_neg other]
  exact if_pos rfl

def wordAt (table : PageTable) (place : Nat) : UInt64 := table.pages.getD place table.fallback

theorem wordAt_store (table : PageTable) (address bits : UInt64) (count place : Nat) :
    (table.store address bits count).wordAt place =
      if ∃ index, index < count ∧ (address + UInt64.ofNat (index * Page.size)).toNat = place
      then bits else table.wordAt place := by
  induction count generalizing table address with
  | zero => simp [store]
  | succ count ih =>
      have step (index : Nat) : address + UInt64.ofNat ((index + 1) * Page.size) =
          address + UInt64.ofNat Page.size + UInt64.ofNat (index * Page.size) := by
        rw [Nat.add_mul, Nat.one_mul, Nat.add_comm, UInt64.ofNat_add, UInt64.add_assoc]
      rw [store, ih]
      by_cases later : ∃ index, index < count ∧
        (address + UInt64.ofNat Page.size + UInt64.ofNat (index * Page.size)).toNat = place
      · obtain ⟨index, bound, same⟩ := later
        rw [if_pos ⟨index, bound, same⟩, if_pos ⟨index + 1, by omega, by rw [step, same]⟩]
      · rw [if_neg later]
        by_cases first : address.toNat = place
        · rw [if_pos ⟨0, by omega, by simpa using first⟩]
          simp [wordAt, first]
        · have apart : ¬ ∃ index, index < count + 1 ∧
              (address + UInt64.ofNat (index * Page.size)).toNat = place := by
            rintro ⟨index, bound, same⟩
            cases index with
            | zero => exact first (by simpa using same)
            | succ index => exact later ⟨index, by omega, by rw [← step, same]⟩
          rw [if_neg apart]
          simp [wordAt, Std.TreeMap.getD_insert, first]

theorem answer_get (table : PageTable) (base : UInt64) :
    answer (Registers.call FunctionId.permissionGet [base]) table =
      if table.aligned && base.toNat % Page.size != 0 then (refusal (-2), table)
      else (Registers.call FunctionId.success [0, table.wordAt base.toNat], table) := by
  have version : FunctionId.permissionGet ≠ FunctionId.version := by decide
  simp only [answer, Registers.x0_call, Registers.x1_call, if_neg version, if_true]
  rfl

theorem answer_set (table : PageTable) (base count bits : UInt64) :
    answer (Registers.call FunctionId.permissionSet [base, count, bits]) table =
      if largestUpdate < count then (refusal (-3), table)
      else (Registers.call FunctionId.success [], table.store base bits count.toNat) := by
  have version : FunctionId.permissionSet ≠ FunctionId.version := by decide
  have get : FunctionId.permissionSet ≠ FunctionId.permissionGet := by decide
  simp only [answer, Registers.x0_call, Registers.x1_call, Registers.x2_call, if_neg version,
    if_neg get, if_true]
  rfl

def keeper : PageKeeper PageTable where
  conduit := conduit
  page address := address.toNat
  word table place := ⟨(table.wordAt place).toUInt32⟩
  get base table := by
    simp only [conduit, answer_get]
    split
    · exact ⟨rfl, fun granted good => by cases good⟩
    · refine ⟨rfl, fun granted good => ?_⟩
      rw [success_call] at good
      cases good
      rw [Registers.x2_call]
  set base count bits table := by
    simp only [conduit, answer_set]
    split
    · exact ⟨fun _ _ => rfl, fun granted good => by cases good⟩
    · constructor
      · intro error refused
        rw [success_call] at refused
        cases refused
      · intro granted _ place
        simp only [wordAt_store]
        refine ⟨fun spanned => by rw [if_pos spanned], fun apart => ?_⟩
        rw [if_neg fun ⟨index, bound, same⟩ => apart index bound same]

end PageTable

end PartitionBoot
