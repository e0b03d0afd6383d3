import PartitionBoot.Proofs.DeviceTree.Searches
import PartitionBoot.Proofs.SameBytes

/-!
Trees with the same bytes in their blocks. Wherever the blocks of two trees stand, every question is
answered alike by both: with the same failure, the same node or number, a name or value of the same
bytes.
-/

namespace PartitionBoot

namespace DeviceTree

open Report (Alike alike_bind alike_bind_eq alike_eq alike_fail alike_pure alike_require)
open Window (SameBytes)

variable {tree other : DeviceTree} {start offset : Nat} {node : Node} {α β γ : Type}

/-- Both blocks of two trees hold the same bytes. -/
structure SameBlocks (tree other : DeviceTree) : Prop where
  tokens : tree.tokens.SameBytes other.tokens
  names : tree.names.SameBytes other.names

/-! Tokens. -/

inductive Token.Same : Token → Token → Prop where
  | beginNode {name also : Window} (same : name.SameBytes also) :
      Same (.beginNode name) (.beginNode also)
  | endNode : Same .endNode .endNode
  | property (nameOffset : UInt32) {value also : Window} (same : value.SameBytes also) :
      Same (.property nameOffset value) (.property nameOffset also)
  | finish : Same .finish .finish

theorem SameBlocks.symm (same : tree.SameBlocks other) : other.SameBlocks tree :=
  ⟨same.tokens.symm, same.names.symm⟩

theorem skipNops_same (same : tree.SameBlocks other) (offset : Nat) :
    tree.skipNops offset = other.skipNops offset := by
  have word := same.tokens.be32?_eq
  fun_induction skipNops tree offset with
  | case1 offset nop ih =>
      rw [word] at nop
      rw [ih, eq_comm, skipNops, dif_pos nop]
  | case2 offset tag =>
      rw [word] at tag
      rw [skipNops, dif_neg tag]

theorem Stamped.same {place next : Nat} {token : Token} (same : tree.SameBlocks other)
    (stamped : tree.Stamped place token next) :
    ∃ also, other.Stamped place also next ∧ token.Same also := by
  have word := same.tokens.be32?_eq
  cases stamped with
  | beginNode tag suffix length =>
      have behind := same.tokens.suffix? (place + 4)
      rw [suffix] at behind
      generalize cut : other.tokens.suffix? (place + 4) = found at behind
      cases behind with
      | some held =>
          refine ⟨_, .beginNode ((word _).symm.trans tag) cut
            ((held.indexOf?_eq 0).symm.trans length), .beginNode (held.front ?_)⟩
          exact Nat.le_of_lt (Window.indexOf?_lt length)
  | endNode tag => exact ⟨_, .endNode ((word _).symm.trans tag), .endNode⟩
  | property tag size name cut =>
      rename_i length nameOffset
      have behind := same.tokens.slice? (place + 12) length.toNat
      rw [cut] at behind
      generalize again : other.tokens.slice? (place + 12) length.toNat = found at behind
      cases behind with
      | some held =>
          exact ⟨_, .property ((word _).symm.trans tag) ((word _).symm.trans size)
            ((word _).symm.trans name) again, .property nameOffset held⟩
  | finish tag => exact ⟨_, .finish ((word _).symm.trans tag), .finish⟩

def Located.Same {limit bound place : Nat} (located : Located limit offset)
    (also : Located bound place) : Prop :=
  located.token.Same also.token ∧ located.next = also.next

theorem token_alike (same : tree.SameBlocks other) (offset : Nat) :
    Alike Located.Same (tree.token offset) (other.token offset) := by
  have place := skipNops_same same offset
  cases told : (tree.token offset).result with
  | ok located =>
      obtain ⟨also, stamped, alike⟩ := (stamped_of_token told).same same
      rw [place] at stamped
      obtain ⟨found, again, rfl, next⟩ := reads_iff_stamped.mpr stamped
      exact .ok told again ⟨alike, next.symm⟩
  | error failure =>
      cases again : (other.token offset).result with
      | ok found =>
          -- A token that the other tree reads stands in this one too.
          obtain ⟨also, stamped, _⟩ := (stamped_of_token again).same same.symm
          rw [← place] at stamped
          obtain ⟨_, read, _⟩ := reads_iff_stamped.mpr stamped
          cases told.symm.trans read
      | error also =>
          have left := tree.token_fault offset failure told
          have right := other.token_fault offset also again
          rw [faultAt, place, same.tokens.be32?_eq, ← faultAt, ← right] at left
          exact .error told (left ▸ again)

/-! Walks. -/

/-- Two visits come to the same result, or hand the same value on, at tokens that are alike. -/
def SameVisit (related : α → γ → Prop) (visit : Visit tree start α β)
    (also : Visit other start γ β) : Prop :=
  ∀ carried offset reached located found, Located.Same located found →
    Alike (Sum.LiftRel related (· = ·)) (visit carried offset reached located)
      (also carried offset reached found)

theorem walkFrom_alike (same : tree.SameBlocks other) {related : α → γ → Prop}
    {visit : Visit tree start α β} {also : Visit other start γ β}
    (visits : SameVisit related visit also) (carried : β) (offset : Nat)
    (reached : start ≤ offset) : Alike related (tree.walkFrom start visit carried offset reached)
      (other.walkFrom start also carried offset reached) := by
  fun_induction walkFrom tree start visit carried offset reached with
  | case1 carried offset reached ih =>
      rw [walkFrom]
      refine alike_bind (token_alike same offset) fun located found alike => ?_
      refine alike_bind (visits _ _ reached _ _ alike) fun told again held => ?_
      cases held with
      | inl result => exact alike_pure result
      | @inr handed _ equal =>
          subst equal
          obtain ⟨_, next⟩ := alike
          simp only [← next]
          exact ih located handed

/-! Questions. -/

theorem root_same (same : tree.SameBlocks other) : tree.root.result = other.root.result := by
  refine Alike.result_eq ?_
  rw [root, root, skipNops_same same 0]
  refine alike_bind (token_alike same _) ?_
  rintro ⟨token, _⟩ ⟨also, _⟩ ⟨alike, _⟩
  cases alike with
  | beginNode held => exact alike_pure rfl
  | endNode => exact alike_fail _
  | property nameOffset held => exact alike_fail _
  | finish => exact alike_fail _

theorem name_alike (same : tree.SameBlocks other) (node : Node) :
    Alike SameBytes (tree.name node) (other.name node) := by
  refine alike_bind (token_alike same node.offset) ?_
  rintro ⟨token, _⟩ ⟨also, _⟩ ⟨alike, _⟩
  cases alike with
  | beginNode held => exact alike_pure held
  | endNode => exact alike_fail _
  | property nameOffset held => exact alike_fail _
  | finish => exact alike_fail _

theorem body_alike (same : tree.SameBlocks other) (node : Node) :
    Alike (· = ·) (tree.body node) (other.body node) := by
  refine alike_bind (token_alike same node.offset) ?_
  rintro ⟨token, next, _, _⟩ ⟨also, _, _, _⟩ ⟨alike, rfl⟩
  cases alike with
  | beginNode held => exact alike_pure rfl
  | endNode => exact alike_fail _
  | property nameOffset held => exact alike_fail _
  | finish => exact alike_fail _

theorem propertyName_alike (same : tree.SameBlocks other) (nameOffset : UInt32) :
    Alike SameBytes (tree.propertyName nameOffset) (other.propertyName nameOffset) := by
  refine alike_bind (alike_require (same.names.suffix? _) _) fun rest also held => ?_
  cases length : rest.indexOf? 0 with
  | none =>
      rw [← held.indexOf?_eq, length]
      exact alike_fail _
  | some count =>
      rw [← held.indexOf?_eq, length]
      exact alike_pure (held.front (Nat.le_of_lt (Window.indexOf?_lt length)))

theorem propertyVisit_alike (same : tree.SameBlocks other) (start : Nat) (name : String) :
    SameVisit (Option.Rel SameBytes) (tree.propertyVisit start name)
      (other.propertyVisit start name) := by
  rintro _ offset reached ⟨token, _⟩ ⟨also, _⟩ ⟨alike, _⟩
  cases alike with
  | property nameOffset held =>
      refine alike_bind (propertyName_alike same nameOffset) fun found title equal => ?_
      rw [show found.bytes = title.bytes from equal]
      split
      · exact alike_pure (.inl (.some held))
      · exact alike_pure (.inr rfl)
  | beginNode held => exact alike_pure (.inl .none)
  | endNode => exact alike_pure (.inl .none)
  | finish => exact alike_pure (.inl .none)

theorem property_alike (same : tree.SameBlocks other) (node : Node) (name : String) :
    Alike (Option.Rel SameBytes) (tree.property node name) (other.property node name) := by
  refine alike_bind_eq (body_alike same node) fun ⟨start, _⟩ => ?_
  exact walkFrom_alike same (propertyVisit_alike same start name) _ _ _

theorem findCompatible_same (same : tree.SameBlocks other) (identifier : String) :
    (tree.findCompatible identifier).result = (other.findCompatible identifier).result := by
  refine Alike.result_eq (walkFrom_alike same ?_ _ _ _)
  rintro _ offset reached ⟨token, _⟩ ⟨also, _⟩ ⟨alike, _⟩
  cases alike with
  | beginNode held =>
      refine alike_bind (property_alike same ⟨offset⟩ "compatible") fun found list equal => ?_
      cases equal with
      | none => exact alike_pure (.inr rfl)
      | @some value also equal =>
          dsimp only
          rw [show value.bytes = also.bytes from equal]
          split
          · exact alike_pure (.inl rfl)
          · exact alike_pure (.inr rfl)
  | endNode => exact alike_pure (.inr rfl)
  | property nameOffset held => exact alike_pure (.inr rfl)
  | finish => exact alike_pure (.inl rfl)

theorem sizedProperty_alike (same : tree.SameBlocks other) (node : Node) (name : String)
    (width : Nat) : Alike (Option.Rel SameBytes) (tree.sizedProperty node name width)
      (other.sizedProperty node name width) := by
  refine alike_bind (property_alike same node name) fun value also equal => ?_
  cases equal with
  | none => exact alike_pure .none
  | @some value also equal =>
      dsimp only
      rw [show value.size = also.size from equal.size_eq]
      split
      · exact alike_pure (.some equal)
      · exact .error rfl rfl

theorem map_bytes_eq {found again : Option Window} (equal : Option.Rel SameBytes found again)
    (made : List UInt8 → α) :
    found.map (fun value => made value.bytes) = again.map fun value => made value.bytes := by
  cases equal with
  | none => rfl
  | some held => exact congrArg (fun bytes => some (made bytes)) held

theorem property32_alike (same : tree.SameBlocks other) (node : Node) (name : String) :
    Alike (· = ·) (tree.property32 node name) (other.property32 node name) :=
  alike_bind (sizedProperty_alike same node name 4) fun _ _ equal =>
    alike_pure (map_bytes_eq equal fun bytes => UInt32.ofNat (ofBigEndian bytes))

theorem property64_alike (same : tree.SameBlocks other) (node : Node) (name : String) :
    Alike (· = ·) (tree.property64 node name) (other.property64 node name) :=
  alike_bind (sizedProperty_alike same node name 8) fun _ _ equal =>
    alike_pure (map_bytes_eq equal fun bytes => UInt64.ofNat (ofBigEndian bytes))

theorem readBytes_alike (same : tree.SameBlocks other) (node : Node) (name : String) :
    Alike SameBytes (tree.readBytes node name) (other.readBytes node name) := by
  refine alike_bind (property_alike same node name) fun value also equal => ?_
  cases equal with
  | none => exact .error rfl rfl
  | some held => exact alike_pure held

theorem read32_alike (same : tree.SameBlocks other) (node : Node) (name : String) :
    Alike (· = ·) (tree.read32 node name) (other.read32 node name) :=
  alike_bind_eq (property32_alike same node name) fun _ => alike_eq rfl

theorem read64_alike (same : tree.SameBlocks other) (node : Node) (name : String) :
    Alike (· = ·) (tree.read64 node name) (other.read64 node name) :=
  alike_bind_eq (property64_alike same node name) fun _ => alike_eq rfl

/-! Children. -/

theorem skipProperties_alike (same : tree.SameBlocks other) (start : Nat) :
    Alike (· = ·) (tree.skipProperties start) (other.skipProperties start) := by
  refine walkFrom_alike same ?_ _ _ _
  rintro _ offset reached ⟨token, _⟩ ⟨also, _⟩ ⟨alike, _⟩
  cases alike with
  | beginNode held => exact alike_pure (.inl rfl)
  | endNode => exact alike_pure (.inl rfl)
  | property nameOffset held => exact alike_pure (.inr rfl)
  | finish => exact alike_pure (.inl rfl)

theorem skipNode_alike (same : tree.SameBlocks other) (start : Nat) :
    Alike (· = ·) (tree.skipNode start) (other.skipNode start) := by
  refine walkFrom_alike same ?_ _ _ _
  rintro depth offset reached ⟨token, next, _, _⟩ ⟨also, _, _, _⟩ ⟨alike, rfl⟩
  cases alike with
  | beginNode held => exact alike_pure (.inr rfl)
  | endNode =>
      obtain _ | _ | depth := depth
      · exact alike_fail _
      · exact alike_pure (.inl rfl)
      · exact alike_pure (.inr rfl)
  | property nameOffset held => exact alike_pure (.inr rfl)
  | finish => exact alike_fail _

def SameNext {limit bound : Nat} (found : Option (NodeFrom limit offset))
    (also : Option (NodeFrom bound offset)) : Prop :=
  found.map NodeFrom.node = also.map NodeFrom.node

theorem nodeAt_alike (same : tree.SameBlocks other) (behind : offset ≤ start) :
    Alike SameNext (tree.nodeAt start behind) (other.nodeAt start behind) := by
  have place := skipNops_same same start
  have told : Alike Located.Same (tree.token (tree.skipNops start))
      (other.token (other.skipNops start)) := by
    rw [← place]
    exact token_alike same _
  refine alike_bind told ?_
  rintro ⟨token, _⟩ ⟨also, _⟩ ⟨alike, _⟩
  cases alike with
  | beginNode held => exact alike_pure (congrArg (fun offset => some (Node.mk offset)) place)
  | endNode => exact alike_pure rfl
  | property nameOffset held => exact alike_fail _
  | finish => exact alike_fail _

theorem firstChild?_same (same : tree.SameBlocks other) (node : Node) :
    tree.firstChild? node = other.firstChild? node := by
  have alike : Alike SameNext (tree.firstChild node) (other.firstChild node) := by
    refine alike_bind_eq (body_alike same node) fun ⟨start, behind⟩ => ?_
    refine alike_bind_eq (skipProperties_alike same start) fun ⟨stop, reached⟩ => ?_
    exact nodeAt_alike same _
  exact alike.map_eq fun _ _ equal => equal

theorem nextSibling?_same (same : tree.SameBlocks other) (node : Node) :
    tree.nextSibling? node = other.nextSibling? node := by
  have alike : Alike SameNext (tree.nextSibling node) (other.nextSibling node) := by
    refine alike_bind_eq (skipNode_alike same node.offset) fun ⟨stop, behind⟩ => ?_
    exact nodeAt_alike same _
  exact alike.map_eq fun _ _ equal => equal

theorem Drains.same {upcoming : Except BootFailure (Option Node)} {found : List Node}
    {cut : Option BootFailure} (same : tree.SameBlocks other)
    (drains : tree.Drains upcoming found cut) : other.Drains upcoming found cut := by
  induction drains with
  | failed failure => exact .failed failure
  | ended => exact .ended
  | node rest ih => exact .node (nextSibling?_same same _ ▸ ih)

theorem children_same (same : tree.SameBlocks other) (ε : Type) (node : Node) :
    (tree.children node : Report ε _).result = (other.children node : Report ε _).result := by
  obtain ⟨found, cut, drained, drains⟩ := tree.children_drains ε node
  obtain ⟨others, also, again, redrains⟩ := other.children_drains ε node
  rw [← firstChild?_same same] at redrains
  obtain ⟨rfl, rfl⟩ := (drains.same same).unique redrains
  rw [drained, again]

theorem firstAnswer_congr {visit also : Node → Report BootFailure (Option α)}
    (visits : ∀ child, (visit child).result = (also child).result) (found : List Node)
    (cut : Option BootFailure) : firstAnswer visit found cut = firstAnswer also found cut := by
  induction found with
  | nil => cases cut <;> rfl
  | cons child others ih => simp only [firstAnswer, visits, ih]

theorem subnode_same (same : tree.SameBlocks other) (node : Node) (name : String) :
    (tree.subnode node name).result = (other.subnode node name).result := by
  obtain ⟨found, cut, _, drains⟩ := tree.children_drains Unit node
  have redrains := drains.same same
  rw [firstChild?_same same] at redrains
  rw [DeviceTree.subnode, DeviceTree.subnode, drains.searchChildren, redrains.searchChildren]
  refine firstAnswer_congr (fun child => Alike.result_eq ?_) found cut
  refine alike_bind (name_alike same child) fun title also equal => ?_
  rw [show title.bytes = also.bytes from equal]
  exact alike_pure rfl

/-- Every question to either tree has the same answer, names and values by their bytes. -/
structure SameAnswers (tree other : DeviceTree) : Prop where
  root : tree.root.result = other.root.result
  name (node : Node) :
    (tree.name node).result.map Window.bytes = (other.name node).result.map Window.bytes
  findCompatible (identifier : String) :
    (tree.findCompatible identifier).result = (other.findCompatible identifier).result
  property (node : Node) (name : String) :
    (tree.property node name).result.map (Option.map Window.bytes) =
      (other.property node name).result.map (Option.map Window.bytes)
  property32 (node : Node) (name : String) :
    (tree.property32 node name).result = (other.property32 node name).result
  property64 (node : Node) (name : String) :
    (tree.property64 node name).result = (other.property64 node name).result
  read32 (node : Node) (name : String) :
    (tree.read32 node name).result = (other.read32 node name).result
  read64 (node : Node) (name : String) :
    (tree.read64 node name).result = (other.read64 node name).result
  readBytes (node : Node) (name : String) :
    (tree.readBytes node name).result.map Window.bytes =
      (other.readBytes node name).result.map Window.bytes
  children (ε : Type) (node : Node) :
    (tree.children node : Report ε _).result = (other.children node : Report ε _).result
  subnode (node : Node) (name : String) :
    (tree.subnode node name).result = (other.subnode node name).result

/-- What a tree answers depends on nothing but the bytes of its two blocks. -/
theorem SameBlocks.answers (same : tree.SameBlocks other) : tree.SameAnswers other where
  root := root_same same
  name node := (name_alike same node).map_eq fun _ _ equal => equal
  findCompatible := findCompatible_same same
  property node name := (property_alike same node name).map_eq fun _ _ equal =>
    map_bytes_eq equal fun bytes => bytes
  property32 node name := (property32_alike same node name).result_eq
  property64 node name := (property64_alike same node name).result_eq
  read32 node name := (read32_alike same node name).result_eq
  read64 node name := (read64_alike same node name).result_eq
  readBytes node name := (readBytes_alike same node name).map_eq fun _ _ equal => equal
  children := children_same same
  subnode := subnode_same same

end DeviceTree

end PartitionBoot
