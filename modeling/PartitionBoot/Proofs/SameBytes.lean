import PartitionBoot.Proofs.Outcome
import PartitionBoot.Proofs.Window

/-!
Windows that hold the same bytes, each in a memory and at an address of its own. A checked reader
tells the same of both; what is read step by step from both comes to the same error or to values
that are related like the windows.
-/

namespace PartitionBoot

namespace Window

variable {window other : Window} {offset count : Nat}

def SameBytes (window other : Window) : Prop := window.bytes = other.bytes

namespace SameBytes

theorem of_byte (size : window.size = other.size)
    (each : ∀ offset < window.size, window.byte offset = other.byte offset) :
    window.SameBytes other := by
  rw [SameBytes, bytes, bytes, ← size, Memory.readBytes, Memory.readBytes]
  exact List.map_congr_left fun offset inside => each offset (List.mem_range.mp inside)

theorem symm (same : window.SameBytes other) : other.SameBytes window := Eq.symm same

theorem size_eq (same : window.SameBytes other) : window.size = other.size := by
  have lengths := congrArg List.length same
  simpa only [bytes, Memory.length_readBytes] using lengths

theorem byte_eq (same : window.SameBytes other) (inside : offset < window.size) :
    window.byte offset = other.byte offset := by
  have shown := other.shows_bytes
  rw [← same] at shown
  exact shown.same_bytes window.shows_bytes offset (by simpa only [bytes, Memory.length_readBytes])

theorem front (same : window.SameBytes other) (short : count ≤ window.size) :
    { window with size := count }.SameBytes { other with size := count } :=
  of_byte rfl fun _ inside => same.byte_eq (Nat.lt_of_lt_of_le inside short)

theorem slice? (same : window.SameBytes other) (offset count : Nat) :
    Option.Rel SameBytes (window.slice? offset count) (other.slice? offset count) := by
  simp only [Window.slice?, ← same.size_eq]
  split
  · rename_i room
    refine .some (of_byte rfl fun index inside => ?_)
    simp only [byte, Nat.add_assoc]
    exact same.byte_eq (by dsimp only at inside; omega)
  · exact .none

theorem suffix? (same : window.SameBytes other) (offset : Nat) :
    Option.Rel SameBytes (window.suffix? offset) (other.suffix? offset) := by
  rw [Window.suffix?, Window.suffix?, ← same.size_eq]
  exact same.slice? offset _

theorem slice?_map_eq {α : Type} (same : window.SameBytes other) (made : List UInt8 → α)
    (offset count : Nat) :
    (window.slice? offset count).map (fun piece => made piece.bytes) =
      (other.slice? offset count).map fun piece => made piece.bytes := by
  have cut := same.slice? offset count
  generalize window.slice? offset count = first at cut ⊢
  generalize other.slice? offset count = second at cut ⊢
  cases cut with
  | none => rfl
  | some held => exact congrArg (fun bytes => some (made bytes)) held

theorem le16?_eq (same : window.SameBytes other) (offset : Nat) :
    window.le16? offset = other.le16? offset :=
  same.slice?_map_eq (fun bytes => UInt16.ofNat (ofLittleEndian bytes)) offset 2

theorem le32?_eq (same : window.SameBytes other) (offset : Nat) :
    window.le32? offset = other.le32? offset :=
  same.slice?_map_eq (fun bytes => UInt32.ofNat (ofLittleEndian bytes)) offset 4

theorem le64?_eq (same : window.SameBytes other) (offset : Nat) :
    window.le64? offset = other.le64? offset :=
  same.slice?_map_eq (fun bytes => UInt64.ofNat (ofLittleEndian bytes)) offset 8

theorem be32?_eq (same : window.SameBytes other) (offset : Nat) :
    window.be32? offset = other.be32? offset :=
  same.slice?_map_eq (fun bytes => UInt32.ofNat (ofBigEndian bytes)) offset 4

theorem indexFrom?_eq (same : window.SameBytes other) (value : UInt8)
    (inside : offset + count ≤ window.size) :
    window.indexFrom? value offset count = other.indexFrom? value offset count := by
  induction count generalizing offset with
  | zero => rfl
  | succ count ih =>
      rw [indexFrom?, indexFrom?, same.byte_eq (by omega), ih (by omega)]

theorem indexOf?_eq (same : window.SameBytes other) (value : UInt8) :
    window.indexOf? value = other.indexOf? value := by
  rw [indexOf?, indexOf?, ← same.size_eq]
  exact same.indexFrom?_eq value (Nat.le_of_eq (Nat.zero_add _))

end SameBytes

end Window

namespace Report

variable {ε α β γ δ : Type} {report : Report ε α} {other : Report ε β} {next : α → Report ε γ}
  {later : β → Report ε δ} {related : α → β → Prop} {likewise : γ → δ → Prop}

/-- Two reports come to the same error, or to related values. -/
inductive Alike (related : α → β → Prop) (report : Report ε α) (other : Report ε β) : Prop where
  | ok {value : α} {also : β} (told : report.result = .ok value) (again : other.result = .ok also)
      (same : related value also) : Alike related report other
  | error {error : ε} (failed : report.result = .error error)
      (again : other.result = .error error) : Alike related report other

theorem alike_pure {value : α} {also : β} (same : related value also) :
    Alike related (pure value : Report ε α) (pure also) :=
  .ok rfl rfl same

theorem alike_fail (error : ε) : Alike related (fail error : Report ε α) (fail error) :=
  .error rfl rfl

theorem alike_require {found : Option α} {again : Option β} (same : Option.Rel related found again)
    (error : ε) : Alike related (require found error) (require again error) := by
  cases same with
  | none => exact .error rfl rfl
  | some held => exact .ok rfl rfl held

theorem alike_eq {also : Report ε α} (same : report.result = also.result) :
    Alike (· = ·) report also := by
  cases told : report.result with
  | error error => exact .error told (same ▸ told)
  | ok value => exact .ok told (same ▸ told) rfl

theorem alike_bind (first : Alike related report other)
    (goes : ∀ value also, related value also → Alike likewise (next value) (later also)) :
    Alike likewise (report >>= next) (other >>= later) := by
  cases first with
  | @error error failed again =>
      have stops : (report >>= next).result = .error error := by
        rw [result_bind, failed]
        rfl
      have alsoStops : (other >>= later).result = .error error := by
        rw [result_bind, again]
        rfl
      exact .error stops alsoStops
  | @ok value also told again same =>
      have goesOn : (report >>= next).result = (next value).result := by
        rw [result_bind, told]
        rfl
      have alsoGoesOn : (other >>= later).result = (later also).result := by
        rw [result_bind, again]
        rfl
      cases goes value also same with
      | ok done alsoDone held => exact .ok (goesOn.trans done) (alsoGoesOn.trans alsoDone) held
      | error done alsoDone => exact .error (goesOn.trans done) (alsoGoesOn.trans alsoDone)

theorem alike_bind_eq {also : Report ε α} {behind : α → Report ε δ}
    (first : Alike (· = ·) report also)
    (goes : ∀ value, Alike likewise (next value) (behind value)) :
    Alike likewise (report >>= next) (also >>= behind) := by
  refine alike_bind first ?_
  rintro value _ rfl
  exact goes value

theorem Alike.of_result_eq {first : Report ε α} {second : Report ε β}
    (alike : Alike related report other) (left : report.result = first.result)
    (right : other.result = second.result) : Alike related first second := by
  cases alike with
  | error failed again => exact .error (left.symm.trans failed) (right.symm.trans again)
  | ok told again same => exact .ok (left.symm.trans told) (right.symm.trans again) same

theorem Alike.mono {weaker : α → β → Prop} (alike : Alike related report other)
    (implied : ∀ value also, related value also → weaker value also) :
    Alike weaker report other := by
  cases alike with
  | error failed again => exact .error failed again
  | ok told again same => exact .ok told again (implied _ _ same)

theorem Alike.map_eq (alike : Alike related report other) {first : α → γ} {second : β → γ}
    (same : ∀ value also, related value also → first value = second also) :
    report.result.map first = other.result.map second := by
  cases alike with
  | error failed again =>
      rw [failed, again]
      rfl
  | ok told again held =>
      rw [told, again]
      exact congrArg Except.ok (same _ _ held)

theorem Alike.result_eq {also : Report ε α} (alike : Alike (· = ·) report also) :
    report.result = also.result := by
  cases alike with
  | error failed again => rw [failed, again]
  | ok told again same => rw [told, again, same]

end Report

end PartitionBoot
