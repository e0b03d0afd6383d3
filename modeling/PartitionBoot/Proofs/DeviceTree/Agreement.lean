import PartitionBoot.Proofs.DeviceTree.Queries

/-!
A blob that flattens a tree is accepted, and every question about a node of the tree is answered
as the tree answers it.
-/

namespace PartitionBoot

namespace DeviceTree

variable {tree : DeviceTree} {names : List UInt8} {flat : FlatTree} {blob : Window}

theorem FlatTree.Encodes.field (encodes : flat.Encodes blob) (offset value : Nat)
    (member : (offset, value) ∈ flat.fields) (inside : value ≤ flat.totalSize) :
    ∃ found : UInt32, blob.be32? offset = some found ∧ found.toNat = value := by
  refine ⟨_, (encodes.fields _ member).be32, ?_⟩
  rw [UInt32.toNat_ofNat', Nat.mod_eq_of_lt (Nat.lt_of_le_of_lt inside encodes.small)]

theorem shows_block {whole block : Window} {size offset : Nat} {bytes : List UInt8}
    (shown : blob.Shows offset bytes) (wholeCut : blob.slice? 0 size = some whole)
    (cut : whole.slice? offset bytes.length = some block)
    (inside : offset + bytes.length ≤ size) : block.Shows 0 bytes := by
  have inWhole : whole.Shows offset bytes :=
    Window.Shows.part (by rw [Nat.zero_add]; exact shown) wholeCut inside
  exact Window.Shows.part inWhole cut (by omega)

theorem FlatTree.Encodes.accepted (encodes : flat.Encodes blob) :
    ∃ tree, (ofWindow blob).result = .ok tree ∧ tree.tokens.Shows 0 flat.tokens ∧
      tree.Reader flat.names := by
  have tokensInside := encodes.tokensInside
  have namesInside := encodes.namesInside
  have small := encodes.small
  have start : blob.be32? 0 = some magic :=
    (encodes.fields (0, magic.toNat) (by simp [FlatTree.fields])).be32
  obtain ⟨totalSize, totalRead, total⟩ :=
    encodes.field 4 flat.totalSize (by simp [FlatTree.fields]) (by omega)
  obtain ⟨tokensOffset, tokensRead, tokensPlace⟩ :=
    encodes.field 8 flat.tokensOffset (by simp [FlatTree.fields]) (by omega)
  obtain ⟨namesOffset, namesRead, namesPlace⟩ :=
    encodes.field 12 flat.namesOffset (by simp [FlatTree.fields]) (by omega)
  obtain ⟨namesSize, namesCount, namesLength⟩ :=
    encodes.field 32 flat.names.length (by simp [FlatTree.fields]) (by omega)
  obtain ⟨tokensSize, tokensCount, tokensLength⟩ :=
    encodes.field 36 flat.tokens.length (by simp [FlatTree.fields]) (by omega)
  obtain ⟨whole, wholeCut⟩ : ∃ whole, blob.slice? 0 flat.totalSize = some whole :=
    ⟨_, Window.slice?_eq_some_iff.mpr ⟨by have := encodes.present; omega, rfl⟩⟩
  have size : whole.size = flat.totalSize := by
    rw [(Window.slice?_eq_some_iff.mp wholeCut).2]
  obtain ⟨tokens, tokensCut⟩ :
      ∃ tokens, whole.slice? flat.tokensOffset flat.tokens.length = some tokens :=
    ⟨_, Window.slice?_eq_some_iff.mpr ⟨by omega, rfl⟩⟩
  obtain ⟨names, namesCut⟩ :
      ∃ names, whole.slice? flat.namesOffset flat.names.length = some names :=
    ⟨_, Window.slice?_eq_some_iff.mpr ⟨by omega, rfl⟩⟩
  refine ⟨⟨tokens, names⟩, ?_, ?_, ?_, ?_⟩
  · simp only [ofWindow, Report.result_bind, Report.result_require, start, Except.bind,
      bne_self_eq_false, Bool.false_eq_true, if_false, totalRead, tokensRead, namesRead,
      namesCount, tokensCount, Report.result_pure, total, tokensPlace, namesPlace, namesLength,
      tokensLength, wholeCut, tokensCut, namesCut]
  · exact shows_block encodes.tokens wholeCut tokensCut tokensInside
  · have length : tokens.size = flat.tokens.length := by
      rw [(Window.slice?_eq_some_iff.mp tokensCut).2]
    show tokens.size < UInt32.size
    omega
  · exact shows_block encodes.names wholeCut namesCut namesInside

theorem root_denoted (shown : tree.tokens.Shows 0 flat.tokens)
    (valid : flat.opening.Valid names) : tree.root.result = .ok flat.root.tagged := by
  have opening := shown.front.front.front
  have stop := skipNops_nops (shows_tag opening) (by decide) (Nat.zero_le flat.opening.gap)
  obtain ⟨name, read, _⟩ := reads_opening opening rfl valid (Nat.le_refl flat.opening.gap)
  rw [Nat.mul_zero, Nat.add_zero] at stop
  rw [← stop] at read
  obtain ⟨located, found, same, _⟩ := read
  simp only [root, Report.result_bind, found, Except.bind, same, Report.result_pure]
  rw [stop]
  rfl

/-- A node in the hands of a reader of the tree: each question about it is answered by the tree. -/
structure Answers (tree : DeviceTree) (placed : Placed) (node : Node) : Prop where
  name : ∃ name, (tree.name node).result = .ok name ∧ name.bytes = placed.opening.name
  property : ∀ wanted, ∃ value, (tree.property node wanted).result = .ok value ∧
    value.map Window.bytes = placed.opening.value? (nameBytes wanted)
  children : ∀ ε : Type, (tree.children node : Report ε _).result =
    .ok (placed.below.map Placed.tagged, none)
  subnode : ∀ wanted, (tree.subnode node wanted).result =
    .ok ((placed.below.find? fun child => child.opening.called (nameBytes wanted)).map
      Placed.tagged)

theorem Stands.answers {placed : Placed} {gap : Nat} {node : Node} (reader : tree.Reader names)
    (stands : tree.Stands names placed gap) (denotes : placed.Denotes node) :
    tree.Answers placed node where
  name := stands.name denotes
  property := stands.property reader denotes
  children _ := stands.children reader denotes
  subnode := stands.subnode reader denotes

/-- Reading a flattened tree answers as the tree does, at its root, at each of its nodes however
a node was come by, and in the search for a compatible node. -/
theorem flattened_tree_answers (encodes : flat.Encodes blob) :
    ∃ tree, (ofWindow blob).result = .ok tree ∧ tree.root.result = .ok flat.root.tagged ∧
      (∀ placed ∈ flat.nodes, ∀ node, placed.Denotes node → tree.Answers placed node) ∧
      ∀ identifier, (tree.findCompatible identifier).result =
        .ok ((flat.nodes.find? fun placed =>
          placed.opening.compatibleWith (nameBytes identifier)).map Placed.gapped) := by
  obtain ⟨tree, accepted, shown, reader⟩ := encodes.accepted
  have stand := nodes_stand shown.front rfl encodes.valid
  refine ⟨tree, accepted, root_denoted shown encodes.valid.1, ?_, ?_⟩
  · intro placed member node denotes
    obtain ⟨gap, stands⟩ := stand placed member
    exact stands.answers reader denotes
  · intro identifier
    exact findCompatible_first reader identifier shown encodes.valid

/-- A root that is compatible with `a` and `b`, its child `c@1`, and NOP tags in front of the root
and of the end of the child. -/
def twoNodes : FlatTree where
  opening := ⟨[], [⟨nameBytes "compatible", [97, 0, 98, 0], 0, 0, []⟩], 1, [0, 0, 0]⟩
  children := .node ⟨[99, 64, 49], [], 0, []⟩ .empty 1 .empty
  closingGap := 0
  finishGap := 0
  names := nameBytes "compatible" ++ [0]
  totalSize := 103
  tokensOffset := 40
  namesOffset := 92

def twoNodesBlob : Window := Window.ofBytes
  (((twoNodes.fields.take 4).flatMap fun field => bigEndian 4 field.2) ++ List.replicate 16 0 ++
    ((twoNodes.fields.drop 4).flatMap fun field => bigEndian 4 field.2) ++
    (twoNodes.tokens ++ twoNodes.names))

theorem two_nodes_encoded : twoNodes.Encodes twoNodesBlob where
  valid := by decide +kernel
  fields := by decide +kernel
  tokens := by decide +kernel
  names := by decide +kernel
  tokensInside := by decide +kernel
  namesInside := by decide +kernel
  small := by decide +kernel
  present := by decide +kernel

theorem two_nodes_answered : twoNodes.Encodes twoNodesBlob ∧
    ∃ tree, (ofWindow twoNodesBlob).result = .ok tree ∧ tree.root.result = .ok ⟨4⟩ ∧
      (tree.children ⟨4⟩ : Report Unit _).result = .ok ([⟨28⟩], none) ∧
      (tree.subnode ⟨4⟩ "c").result = .ok (some ⟨28⟩) ∧
      (tree.findCompatible "b").result = .ok (some ⟨0⟩) ∧
      (tree.findCompatible "c").result = .ok none := by
  obtain ⟨tree, accepted, root, nodes, compatible⟩ := flattened_tree_answers two_nodes_encoded
  have answers := nodes twoNodes.root twoNodes.root_mem_nodes ⟨4⟩ ⟨1, by decide, rfl⟩
  have row : twoNodes.root.below.map Placed.tagged = [⟨28⟩] := by decide +kernel
  have child : (twoNodes.root.below.find? fun child =>
      child.opening.called (nameBytes "c")).map Placed.tagged = some ⟨28⟩ := by decide +kernel
  have second : (twoNodes.nodes.find? fun placed =>
      placed.opening.compatibleWith (nameBytes "b")).map Placed.gapped = some ⟨0⟩ := by
    decide +kernel
  have absent : (twoNodes.nodes.find? fun placed =>
      placed.opening.compatibleWith (nameBytes "c")).map Placed.gapped = none := by
    decide +kernel
  refine ⟨two_nodes_encoded, tree, accepted, root, ?_, ?_, ?_, ?_⟩
  · rw [answers.children Unit, row]
  · rw [answers.subnode "c", child]
  · rw [compatible "b", second]
  · rw [compatible "c", absent]

end DeviceTree

end PartitionBoot
