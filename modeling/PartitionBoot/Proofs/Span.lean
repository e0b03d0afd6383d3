/-!
Spans of addresses or offsets: what they cover, when one lies within another and when two lie
apart.
-/

namespace PartitionBoot

structure Span where
  start : Nat
  stop : Nat
deriving DecidableEq

namespace Span

def Covers (span : Span) (address : Nat) : Prop := span.start ≤ address ∧ address < span.stop

def Apart (left right : Span) : Prop := left.stop ≤ right.start ∨ right.stop ≤ left.start

def Within (inner outer : Span) : Prop := outer.start ≤ inner.start ∧ inner.stop ≤ outer.stop

instance (inner outer : Span) : Decidable (inner.Within outer) :=
  inferInstanceAs (Decidable (_ ∧ _))

instance (left right : Span) : Decidable (left.Apart right) :=
  inferInstanceAs (Decidable (_ ∨ _))

instance (span : Span) (address : Nat) : Decidable (span.Covers address) :=
  inferInstanceAs (Decidable (_ ∧ _))

instance : Std.Symm Apart := ⟨fun _ _ => Or.symm⟩

variable {left right inner outer : Span}

theorem Apart.symm (apart : left.Apart right) : right.Apart left := Or.symm apart

theorem Apart.mono_left (apart : outer.Apart right) (within : inner.Within outer) :
    inner.Apart right := by
  simp only [Apart, Within] at *
  omega

theorem Apart.mono_right (apart : left.Apart outer) (within : inner.Within outer) :
    left.Apart inner :=
  (apart.symm.mono_left within).symm

theorem Apart.not_covers (apart : left.Apart right) {address : Nat}
    (covers : right.Covers address) : ¬ left.Covers address := by
  simp only [Apart, Covers] at *
  omega

theorem Within.covers (within : inner.Within outer) {address : Nat}
    (covers : inner.Covers address) : outer.Covers address :=
  ⟨Nat.le_trans within.1 covers.1, Nat.lt_of_lt_of_le covers.2 within.2⟩

theorem apart_point {span : Span} {address : Nat} (clear : ¬ span.Covers address) :
    span.Apart ⟨address, address + 1⟩ := by
  simp only [Covers, Apart] at *
  omega

theorem Within.trans {span : Span} (first : inner.Within span) (second : span.Within outer) :
    inner.Within outer :=
  ⟨Nat.le_trans second.1 first.1, Nat.le_trans first.2 second.2⟩

end Span

end PartitionBoot
