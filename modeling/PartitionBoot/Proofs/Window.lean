import PartitionBoot.Memory.Window

/-!
What a window shows. `Window.Shows` names the bytes at an offset; the checked readers are described
by what they return where such bytes are shown.
-/

namespace PartitionBoot

namespace Window

/-- The window holds these bytes from an offset on. -/
def Shows (window : Window) (offset : Nat) (bytes : List UInt8) : Prop :=
  offset + bytes.length ≤ window.size ∧
    ∀ index, index < bytes.length → bytes[index]? = some (window.byte (offset + index))

instance (window : Window) (offset : Nat) (bytes : List UInt8) :
    Decidable (window.Shows offset bytes) :=
  inferInstanceAs (Decidable (_ ∧ _))

variable {window : Window} {offset : Nat} {bytes first second : List UInt8}

theorem shows_append : window.Shows offset (first ++ second) ↔
    window.Shows offset first ∧ window.Shows (offset + first.length) second := by
  simp only [Shows, List.length_append]
  constructor
  · rintro ⟨bound, each⟩
    refine ⟨⟨by omega, fun index inside => ?_⟩, by omega, fun index inside => ?_⟩
    · rw [← each index (by omega), List.getElem?_append_left inside]
    · rw [Nat.add_assoc, ← each (first.length + index) (by omega),
        List.getElem?_append_right (by omega)]
      simp
  · rintro ⟨⟨_, early⟩, bound, late⟩
    refine ⟨by omega, fun index inside => ?_⟩
    by_cases before : index < first.length
    · rw [List.getElem?_append_left before]
      exact early index before
    · rw [List.getElem?_append_right (by omega), late _ (by omega)]
      congr 2
      omega

theorem Shows.front (shown : window.Shows offset (first ++ second)) : window.Shows offset first :=
  (shows_append.mp shown).1

theorem Shows.back (shown : window.Shows offset (first ++ second)) :
    window.Shows (offset + first.length) second :=
  (shows_append.mp shown).2

theorem Shows.drop {count : Nat} (shown : window.Shows offset bytes)
    (fits : count ≤ bytes.length) : window.Shows (offset + count) (bytes.drop count) := by
  rw [← List.take_append_drop count bytes] at shown
  have rest := shown.back
  rwa [List.length_take_of_le fits] at rest

theorem Shows.bytes_eq (shown : window.Shows 0 bytes) (whole : window.size = bytes.length) :
    window.bytes = bytes := by
  have length : window.bytes.length = bytes.length := by
    rw [Window.bytes, Memory.length_readBytes, whole]
  apply List.ext_getElem length
  intro index _ inside
  have here := shown.2 index inside
  rw [List.getElem?_eq_getElem inside, Option.some.injEq, Nat.zero_add] at here
  rw [here]
  exact Memory.getElem_readBytes _ _ _ _ _

theorem shows_bytes (window : Window) : window.Shows 0 window.bytes := by
  refine ⟨by simp [Window.bytes], fun index inside => ?_⟩
  rw [List.getElem?_eq_getElem inside, Nat.zero_add]
  exact congrArg some (Memory.getElem_readBytes _ _ _ _ _)

theorem shows_ofBytes (first second : List UInt8) : (ofBytes (first ++ second)).Shows 0 first := by
  refine ⟨by simp [ofBytes], fun index inside => ?_⟩
  simp [ofBytes, byte, List.getElem?_append_left inside, List.getElem?_eq_getElem inside]

theorem Shows.same_bytes {other : Window} (shown : window.Shows 0 bytes)
    (again : other.Shows 0 bytes) :
    ∀ offset < bytes.length, other.byte offset = window.byte offset := by
  intro offset inside
  have here := (again.2 offset inside).symm.trans (shown.2 offset inside)
  simpa only [Nat.zero_add, Option.some.injEq] using here

theorem Shows.part {part : Window} {start count : Nat} (shown : window.Shows (start + offset) bytes)
    (cut : window.slice? start count = some part) (fits : offset + bytes.length ≤ count) :
    part.Shows offset bytes := by
  obtain ⟨_, rfl⟩ := slice?_eq_some_iff.mp cut
  refine ⟨fits, fun index inside => ?_⟩
  rw [shown.2 index inside]
  simp only [byte, Nat.add_assoc]

theorem Shows.slice (shown : window.Shows offset bytes) :
    ∃ part, window.slice? offset bytes.length = some part ∧ part.bytes = bytes := by
  refine ⟨_, slice?_eq_some_iff.mpr ⟨shown.1, rfl⟩, ?_⟩
  refine Shows.bytes_eq (Shows.part shown (slice?_eq_some_iff.mpr ⟨shown.1, rfl⟩) ?_) rfl
  omega

theorem Shows.be32 {value : Nat} (shown : window.Shows offset (bigEndian 4 value)) :
    window.be32? offset = some (UInt32.ofNat value) := by
  obtain ⟨part, cut, held⟩ := shown.slice
  rw [length_bigEndian] at cut
  rw [be32?, cut, Option.map_some, held, ofBigEndian_bigEndian]
  congr 1
  apply UInt32.toNat.inj
  simp

theorem Shows.le16 {value : Nat} (shown : window.Shows offset (littleEndian 2 value)) :
    window.le16? offset = some (UInt16.ofNat value) := by
  obtain ⟨part, cut, held⟩ := shown.slice
  rw [length_littleEndian] at cut
  rw [le16?, cut, Option.map_some, held, ofLittleEndian_littleEndian]
  congr 1
  apply UInt16.toNat.inj
  simp

theorem Shows.le24 {value : Nat} (shown : window.Shows offset (littleEndian 3 value))
    (fits : value < Nat.pow 256 3) : window.le24? offset = some (UInt32.ofNat value) := by
  obtain ⟨part, cut, held⟩ := shown.slice
  rw [length_littleEndian] at cut
  rw [le24?, cut, Option.map_some, held, ofLittleEndian_littleEndian, Nat.mod_eq_of_lt fits]

theorem Shows.le32 {value : Nat} (shown : window.Shows offset (littleEndian 4 value)) :
    window.le32? offset = some (UInt32.ofNat value) := by
  obtain ⟨part, cut, held⟩ := shown.slice
  rw [length_littleEndian] at cut
  rw [le32?, cut, Option.map_some, held, ofLittleEndian_littleEndian]
  congr 1
  apply UInt32.toNat.inj
  simp

theorem Shows.le64 {value : Nat} (shown : window.Shows offset (littleEndian 8 value)) :
    window.le64? offset = some (UInt64.ofNat value) := by
  obtain ⟨part, cut, held⟩ := shown.slice
  rw [length_littleEndian] at cut
  rw [le64?, cut, Option.map_some, held, ofLittleEndian_littleEndian]
  congr 1
  apply UInt64.toNat.inj
  simp

theorem Shows.byte {value : UInt8} (shown : window.Shows offset [value]) :
    window.byte offset = value := by
  have here := shown.2 0 (by simp)
  simpa using here.symm

theorem Shows.suffix (shown : window.Shows offset bytes) :
    ∃ part, window.suffix? offset = some part ∧ part.Shows 0 bytes := by
  have bound := shown.1
  obtain ⟨part, cut⟩ : ∃ part, window.slice? offset (window.size - offset) = some part :=
    ⟨_, slice?_eq_some_iff.mpr ⟨by omega, rfl⟩⟩
  exact ⟨part, cut, Shows.part shown cut (by omega)⟩

theorem indexFrom?_shows {name : List UInt8} {value : UInt8} {count : Nat}
    (shown : window.Shows offset (name ++ [value])) (clean : value ∉ name)
    (enough : name.length < count) :
    window.indexFrom? value offset count = some (offset + name.length) := by
  induction name generalizing offset count with
  | nil =>
      obtain ⟨rest, rfl⟩ : ∃ rest, count = rest + 1 := ⟨count - 1, by simp at enough; omega⟩
      have here := shown.2 0 (by simp)
      simp only [List.nil_append, List.getElem?_cons_zero, Option.some.injEq, Nat.add_zero] at here
      rw [indexFrom?, if_pos here.symm]
      rfl
  | cons first rest ih =>
      obtain ⟨left, rfl⟩ : ∃ left, count = left + 1 := ⟨count - 1, by simp at enough; omega⟩
      simp only [List.mem_cons, not_or] at clean
      have here := shown.2 0 (by simp)
      simp only [List.cons_append, List.getElem?_cons_zero, Option.some.injEq,
        Nat.add_zero] at here
      have later : window.Shows (offset + 1) (rest ++ [value]) :=
        (shows_append.mp (show window.Shows offset ([first] ++ (rest ++ [value])) from shown)).2
      rw [indexFrom?, if_neg (by rw [← here]; exact fun same => clean.1 same.symm),
        ih later clean.2 (by simp at enough; omega)]
      simp only [List.length_cons, Option.some.injEq]
      omega

theorem Shows.indexOf {name : List UInt8} {value : UInt8}
    (shown : window.Shows 0 (name ++ [value])) (clean : value ∉ name) :
    window.indexOf? value = some name.length := by
  have bound := shown.1
  simp only [List.length_append, List.length_singleton] at bound
  rw [indexOf?, indexFrom?_shows shown clean (by omega), Nat.zero_add]

theorem Shows.terminated {name : List UInt8} {value : UInt8}
    (shown : window.Shows offset (name ++ [value])) (clean : value ∉ name) :
    ∃ rest, window.suffix? offset = some rest ∧ rest.indexOf? value = some name.length ∧
      { rest with size := name.length }.bytes = name := by
  obtain ⟨rest, suffix, restShown⟩ := shown.suffix
  refine ⟨rest, suffix, restShown.indexOf clean, ?_⟩
  have inside : { rest with size := name.length }.Shows 0 name :=
    ⟨by simp, restShown.front.2⟩
  exact inside.bytes_eq rfl

end Window

end PartitionBoot
