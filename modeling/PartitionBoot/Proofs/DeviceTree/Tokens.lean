import PartitionBoot.Proofs.DeviceTree.Flattened

/-!
Reading the tokens of a flattened tree. Wherever in the NOP tags in front of a token a reader
stands, it finds this token and goes on behind it.
-/

namespace PartitionBoot

theorem alignUp_four {offset padding : Nat} (short : padding < 4)
    (whole : (offset + padding) % 4 = 0) : alignUp offset 4 = offset + padding := by
  simp only [alignUp]
  omega

namespace DeviceTree

variable {tree : DeviceTree} {start gap skipped offset next : Nat} {tag : UInt32}
  {rest : List UInt8}

theorem be32_tagBytes (shown : tree.tokens.Shows offset (tagBytes tag)) :
    tree.tokens.be32? offset = some tag := by
  rw [shown.be32]
  simp

theorem shows_tag (shown : tree.tokens.Shows start (nops gap ++ (tagBytes tag ++ rest))) :
    tree.tokens.Shows start (nops gap ++ tagBytes tag) := by
  rw [← List.append_assoc] at shown
  exact shown.front

theorem be32_behind_nops (shown : tree.tokens.Shows start (nops gap ++ tagBytes tag)) :
    tree.tokens.be32? (start + 4 * gap) = some tag := by
  have behind := shown.back
  rw [length_nops] at behind
  exact be32_tagBytes behind

theorem skipNops_nops (shown : tree.tokens.Shows start (nops gap ++ tagBytes tag))
    (other : tag ≠ Tag.nop) (within : skipped ≤ gap) :
    tree.skipNops (start + 4 * skipped) = start + 4 * gap := by
  induction gap generalizing start skipped with
  | zero =>
      have here := be32_tagBytes (show tree.tokens.Shows start (tagBytes tag) from shown)
      have none : skipped = 0 := by omega
      subst none
      rw [skipNops, dif_neg (by simpa [here] using other)]
  | succ gap ih =>
      rw [nops, List.append_assoc] at shown
      have later := shown.back
      rw [length_tagBytes] at later
      cases skipped with
      | zero =>
          have first : tree.skipNops (start + 4 + 4 * 0) = start + 4 + 4 * gap :=
            ih later (by omega)
          rw [Nat.mul_zero, Nat.add_zero, skipNops, dif_pos (be32_tagBytes shown.front)]
          rw [Nat.mul_zero, Nat.add_zero] at first
          omega
      | succ skipped =>
          have further : tree.skipNops (start + 4 + 4 * skipped) = start + 4 + 4 * gap :=
            ih later (by omega)
          rw [show start + 4 * (skipped + 1) = start + 4 + 4 * skipped by omega, further]
          omega

/-- A token is read at an offset, and the next one is looked for at another. -/
def Reads (tree : DeviceTree) (offset : Nat) (token : Token) (next : Nat) : Prop :=
  ∃ located, (tree.token offset).result = .ok located ∧ located.token = token ∧
    located.next = next

theorem token_beginNode {rest : Window} {place count : Nat} (stop : tree.skipNops offset = place)
    (found : tree.tokens.be32? place = some Tag.beginNode)
    (suffix : tree.tokens.suffix? (place + 4) = some rest) (length : rest.indexOf? 0 = some count) :
    tree.Reads offset (.beginNode { rest with size := count })
      (alignUp (place + 4 + count + 1) 4) := by
  subst stop
  simp only [Reads, token]
  split
  · rename_i missing
    rw [found] at missing
    cases missing
  · rename_i tag present
    rw [found] at present
    cases present
    rw [if_pos rfl]
    simp only [Report.result_bind, Report.result_require, suffix, length, Except.bind,
      Report.result_pure]
    exact ⟨_, rfl, rfl, rfl⟩

theorem token_simple {token : Token} {place : Nat} (stop : tree.skipNops offset = place)
    (found : tree.tokens.be32? place = some tag)
    (kind : tag = Tag.endNode ∧ token = .endNode ∨ tag = Tag.finish ∧ token = .finish) :
    tree.Reads offset token (place + 4) := by
  subst stop
  simp only [Reads, DeviceTree.token]
  split
  · rename_i missing
    rw [found] at missing
    cases missing
  · rename_i other present
    rw [found] at present
    cases present
    rcases kind with ⟨rfl, rfl⟩ | ⟨rfl, rfl⟩
    · rw [if_neg (by decide), if_pos rfl]
      exact ⟨_, rfl, rfl, rfl⟩
    · rw [if_neg (by decide), if_neg (by decide), if_neg (by decide), if_pos rfl]
      exact ⟨_, rfl, rfl, rfl⟩

theorem token_property {value : Window} {length nameOffset : UInt32} {place : Nat}
    (stop : tree.skipNops offset = place)
    (found : tree.tokens.be32? place = some Tag.property)
    (size : tree.tokens.be32? (place + 4) = some length)
    (name : tree.tokens.be32? (place + 8) = some nameOffset)
    (cut : tree.tokens.slice? (place + 12) length.toNat = some value) :
    tree.Reads offset (.property nameOffset value) (alignUp (place + 12 + length.toNat) 4) := by
  subst stop
  simp only [Reads, token]
  split
  · rename_i missing
    rw [found] at missing
    cases missing
  · rename_i tag present
    rw [found] at present
    cases present
    rw [if_neg (by decide), if_neg (by decide), if_pos rfl]
    simp only [Report.result_bind, Report.result_require, size, name, cut, Except.bind,
      Report.result_pure]
    exact ⟨_, rfl, rfl, rfl⟩

theorem reads_opening {opening : Opening} {names : List UInt8}
    (shown : tree.tokens.Shows start opening.head) (aligned : start % 4 = 0)
    (valid : opening.Valid names) (within : skipped ≤ opening.gap) :
    ∃ name, tree.Reads (start + 4 * skipped) (.beginNode name) (start + opening.head.length) ∧
      name.bytes = opening.name := by
  obtain ⟨clean, pads, _⟩ := valid
  have stop := skipNops_nops (shows_tag shown) (by decide) within
  have found := be32_behind_nops (shows_tag shown)
  have behind := shown.back
  rw [length_nops] at behind
  have inName := behind.back.front
  rw [length_tagBytes] at inName
  obtain ⟨rest, suffix, length, named⟩ := inName.terminated clean
  refine ⟨{ rest with size := opening.name.length }, ?_, named⟩
  have read := token_beginNode stop found suffix length
  rw [alignUp_four pads.1 (by have := pads.2; omega)] at read
  rw [Opening.length_head]
  have place : start + 4 * opening.gap + 4 + opening.name.length + 1 + opening.padding.length =
      start + (4 * opening.gap + (4 + (opening.name.length + 1 + opening.padding.length))) := by
    omega
  rw [← place]
  exact read

theorem reads_closing (shown : tree.tokens.Shows start (closing gap)) (within : skipped ≤ gap) :
    tree.Reads (start + 4 * skipped) .endNode (start + (closing gap).length) := by
  rw [length_closing]
  exact token_simple (skipNops_nops shown (by decide) within) (be32_behind_nops shown)
    (Or.inl ⟨rfl, rfl⟩)

theorem reads_finish (shown : tree.tokens.Shows start (nops gap ++ tagBytes Tag.finish)) :
    ∃ next, tree.Reads start .finish next := by
  exact ⟨_, token_simple (skipNops_nops shown (by decide) (Nat.zero_le gap))
    (be32_behind_nops shown) (Or.inr ⟨rfl, rfl⟩)⟩

theorem reads_property {property : FlatProperty} {names : List UInt8}
    (shown : tree.tokens.Shows start property.bytes) (aligned : start % 4 = 0)
    (valid : property.Valid names) (small : tree.tokens.size < UInt32.size) :
    ∃ value, tree.Reads start (.property (UInt32.ofNat property.nameOffset) value)
      (start + property.bytes.length) ∧ value.bytes = property.value := by
  obtain ⟨_, _, _, pads⟩ := valid
  have stop := skipNops_nops (shows_tag shown) (by decide) (Nat.zero_le property.gap)
  have found := be32_behind_nops (shows_tag shown)
  have behind := shown.back
  rw [length_nops] at behind
  have inLength := behind.back
  rw [length_tagBytes] at inLength
  have inName := inLength.back
  rw [length_bigEndian] at inName
  have inValue := inName.back
  rw [length_bigEndian] at inValue
  have fits : property.value.length < UInt32.size := by
    have bound := inValue.front.1
    omega
  have length : (UInt32.ofNat property.value.length).toNat = property.value.length := by
    rw [UInt32.toNat_ofNat', Nat.mod_eq_of_lt fits]
  obtain ⟨value, cut, held⟩ := inValue.front.slice
  refine ⟨value, ?_, held⟩
  have read := token_property stop found inLength.front.be32 inName.front.be32
    (by rw [length]; exact cut)
  rw [length, alignUp_four pads.1 (by have := pads.2; omega)] at read
  rw [FlatProperty.length_bytes]
  have place : start + 4 * property.gap + 12 + property.value.length + property.padding.length =
      start + (4 * property.gap + (12 + (property.value.length + property.padding.length))) := by
    omega
  rw [← place]
  exact read

theorem propertyName_result {property : FlatProperty} {names : List UInt8}
    (shown : tree.names.Shows 0 names) (valid : property.Valid names) :
    ∃ name, (tree.propertyName (UInt32.ofNat property.nameOffset)).result = .ok name ∧
      name.bytes = property.name := by
  obtain ⟨clean, ⟨rest, split⟩, small, _⟩ := valid
  have inside : property.nameOffset ≤ names.length := by
    have length := congrArg List.length split
    simp only [List.length_append, List.length_singleton, List.length_drop] at length
    omega
  have named := shown.drop inside
  rw [Nat.zero_add, ← split] at named
  obtain ⟨found, suffix, length, held⟩ := named.front.terminated clean
  have place : (UInt32.ofNat property.nameOffset).toNat = property.nameOffset := by
    rw [UInt32.toNat_ofNat', Nat.mod_eq_of_lt small]
  refine ⟨{ found with size := property.name.length }, ?_, held⟩
  simp only [propertyName, Report.result_bind, Report.result_require, place, suffix, length,
    Except.bind, Report.result_pure]

end DeviceTree

end PartitionBoot
