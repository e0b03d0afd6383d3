import PartitionBoot.Proofs.DeviceTree.Searches

/-!
Handles of nodes in arbitrary bytes. The root, a child and a child with a name are known by the
offset of their opening tag. A compatible node is known by the offset at which the walk over all
tokens looked for it, which is that of a NOP tag where one stands in front of the node; this is the
only way in which one node gets two handles.
-/

namespace PartitionBoot

namespace DeviceTree

variable {tree : DeviceTree} {start offset other next : Nat} {node also child : Node}
  {title : Window} {found : List Node} {cut : Option BootFailure} {α : Type}
  {visit : Node → Report BootFailure (Option α)} {answer : α}

/-! Opening tags. -/

def Opens (tree : DeviceTree) (node : Node) : Prop :=
  tree.tokens.be32? node.offset = some Tag.beginNode

/-- Two handles lead to one opening tag. -/
def SameNode (tree : DeviceTree) (node also : Node) : Prop :=
  tree.skipNops node.offset = tree.skipNops also.offset

theorem skipNops_eq_self_iff :
    tree.skipNops offset = offset ↔ tree.tokens.be32? offset ≠ some Tag.nop := by
  rw [skipNops]
  split
  · rename_i nop
    have behind := tree.le_skipNops (offset + 4)
    simp only [nop, ne_eq, not_true, iff_false]
    omega
  · rename_i other
    simp [other]

theorem opens_skipNops (read : tree.Reads offset (.beginNode title) next) :
    tree.Opens ⟨tree.skipNops offset⟩ := by
  cases reads_iff_stamped.mp read with
  | beginNode tag suffix length => exact tag

theorem Opens.skipNops_eq (opens : tree.Opens node) : tree.skipNops node.offset = node.offset := by
  refine skipNops_eq_self_iff.mpr ?_
  rw [Opens] at opens
  rw [opens]
  decide

theorem opens_iff_not_nop (read : tree.Reads node.offset (.beginNode title) next) :
    tree.Opens node ↔ tree.tokens.be32? node.offset ≠ some Tag.nop := by
  rw [← skipNops_eq_self_iff]
  constructor
  · intro opens
    exact opens.skipNops_eq
  · intro still
    have opens := opens_skipNops read
    rwa [still] at opens

/-! Steps from node to node. -/

theorem Follows.opens (follows : tree.Follows start (some child)) : tree.Opens child := by
  cases follows with
  | opening read => exact opens_skipNops read

theorem firstChild?_opens (looked : tree.firstChild? node = .ok (some child)) :
    tree.Opens child := by
  obtain ⟨answer, looked, same⟩ := node?_ok_iff.mp looked
  obtain ⟨_, _, looked⟩ := Report.bind_ok_iff.mp looked
  obtain ⟨_, _, looked⟩ := Report.bind_ok_iff.mp looked
  exact ((nodeAt_ok_iff _).mp (node?_ok_iff.mpr ⟨answer, looked, same⟩)).opens

theorem nextSibling?_opens (looked : tree.nextSibling? node = .ok (some child)) :
    tree.Opens child := by
  obtain ⟨answer, looked, same⟩ := node?_ok_iff.mp looked
  obtain ⟨_, _, looked⟩ := Report.bind_ok_iff.mp looked
  exact ((nodeAt_ok_iff _).mp (node?_ok_iff.mpr ⟨answer, looked, same⟩)).opens

theorem Drains.open {upcoming : Except BootFailure (Option Node)}
    (drains : tree.Drains upcoming found cut)
    (first : ∀ child, upcoming = .ok (some child) → tree.Opens child) :
    ∀ child ∈ found, tree.Opens child := by
  induction drains with
  | failed failure => simp
  | ended => simp
  | node rest ih =>
      exact List.forall_mem_cons.mpr ⟨first _ rfl, ih fun sibling looked => nextSibling?_opens looked⟩

theorem firstAnswer_mem (answered : firstAnswer visit found cut = .ok (some answer)) :
    ∃ child ∈ found, (visit child).result = .ok (some answer) := by
  obtain passes | ⟨before, child, behind, rfl, passes, decides⟩ := passes_or_decides visit found
  · rw [← List.append_nil found, firstAnswer_passed passes] at answered
    cases cut with
    | none => cases answered
    | some failure => cases answered
  · rw [firstAnswer_passed passes] at answered
    exact ⟨child, by simp, (firstAnswer_decided decides behind cut).symm.trans answered⟩

theorem subnode_mem {parent : Node} {name : String}
    (drains : tree.Drains (tree.firstChild? parent) found cut)
    (named : (tree.subnode parent name).result = .ok (some node)) : node ∈ found := by
  rw [DeviceTree.subnode, drains.searchChildren] at named
  obtain ⟨child, member, accepted⟩ := firstAnswer_mem named
  obtain ⟨_, _, accepted⟩ := Report.bind_ok_iff.mp accepted
  simp only [Report.result_pure, Except.ok.injEq] at accepted
  split at accepted
  · cases accepted
    exact member
  · cases accepted

inductive Stepped (tree : DeviceTree) : Node → Prop where
  | root {node : Node} (told : tree.root.result = .ok node) : Stepped tree node
  | child {parent node : Node} {found : List Node} {cut : Option BootFailure}
      (told : (tree.children parent : Report BootFailure _).result = .ok (found, cut))
      (member : node ∈ found) : Stepped tree node
  | named {parent node : Node} {name : String}
      (told : (tree.subnode parent name).result = .ok (some node)) : Stepped tree node

theorem Stepped.opens (stepped : tree.Stepped node) : tree.Opens node := by
  have children : ∀ {parent found cut}, tree.Drains (tree.firstChild? parent) found cut →
      ∀ child ∈ found, tree.Opens child :=
    fun drains => drains.open fun child looked => firstChild?_opens looked
  cases stepped with
  | root told =>
      obtain ⟨located, read, told⟩ := Report.bind_ok_iff.mp told
      split at told
      · rename_i title opening
        cases told
        exact opens_skipNops (opening ▸ reads_skipNops.mp (reads_of_token read))
      · cases told
  | child told member =>
      obtain ⟨_, _, again, drains⟩ := tree.children_drains BootFailure _
      rw [again] at told
      cases told
      exact children drains _ member
  | named told =>
      obtain ⟨_, _, _, drains⟩ := tree.children_drains BootFailure _
      exact children drains _ (subnode_mem drains told)

/-! Compatible nodes. -/

def Finds (tree : DeviceTree) (identifier : String) (node : Node) : Prop :=
  (tree.findCompatible identifier).result = .ok (some node)

theorem Precedes.past (precedes : tree.Precedes offset next) : tree.skipNops offset < next := by
  obtain ⟨token, read⟩ := precedes
  have advances := (reads_iff_stamped.mp read).advances
  omega

theorem precedes_rightUnique (tree : DeviceTree) : Relator.RightUnique tree.Precedes := by
  rintro offset next other ⟨token, read⟩ ⟨also, again⟩
  exact (again.unique read).2

theorem le_of_precedes (run : Relation.ReflTransGen tree.Precedes offset other) :
    offset ≤ other := by
  induction run with
  | refl => exact Nat.le_refl offset
  | @tail middle next _ last ih =>
      have past := last.past
      have skipped := tree.le_skipNops middle
      omega

/-- Of all offsets that a run of tokens comes to, only one lies in front of a tag. -/
theorem eq_of_precedes (run : Relation.ReflTransGen tree.Precedes offset other)
    (same : tree.skipNops offset = tree.skipNops other) : offset = other := by
  obtain rfl | ⟨next, first, rest⟩ := run.cases_head
  · rfl
  · have past := first.past
    have later := le_of_precedes rest
    have skipped := tree.le_skipNops other
    omega

theorem Finds.opens_iff {identifier : String} (found : tree.Finds identifier node) :
    tree.Opens node ↔ tree.tokens.be32? node.offset ≠ some Tag.nop := by
  obtain ⟨_, title, body, read⟩ := findCompatible_found found
  exact opens_iff_not_nop read

theorem Finds.unique {first second : String} (found : tree.Finds first node)
    (again : tree.Finds second also) (same : tree.SameNode node also) : node = also := by
  obtain ⟨run, _⟩ := findCompatible_found found
  obtain ⟨rerun, _⟩ := findCompatible_found again
  obtain further | further := run.total_of_right_unique tree.precedes_rightUnique rerun
  · exact congrArg Node.mk (eq_of_precedes further same)
  · exact congrArg Node.mk (eq_of_precedes further same.symm).symm

theorem Opens.unique (opens : tree.Opens node) (reopens : tree.Opens also)
    (same : tree.SameNode node also) : node = also := by
  rw [SameNode, opens.skipNops_eq, reopens.skipNops_eq] at same
  exact congrArg Node.mk same

/-! Handles. -/

/-- A node that a step or the search for a compatible node hands out. -/
inductive Handed (tree : DeviceTree) (node : Node) : Prop where
  | stepped (stepped : tree.Stepped node)
  | found (identifier : String) (finds : tree.Finds identifier node)

/-- Every node has one handle, the offset of its opening tag. -/
structure OneHandle (tree : DeviceTree) : Prop where
  opens : ∀ node, tree.Handed node → tree.Opens node
  unique : ∀ node also, tree.Handed node → tree.Handed also → tree.SameNode node also → node = also

theorem Handed.eq_iff (handed : tree.Handed node) (again : tree.Handed also)
    (same : tree.SameNode node also) : node = also ↔ (tree.Opens node ↔ tree.Opens also) := by
  constructor
  · rintro rfl
    rfl
  · intro alike
    by_cases opens : tree.Opens node
    · exact opens.unique (alike.mp opens) same
    · -- Neither handle is that of an opening tag, so both come from the walk over all tokens.
      have reopens := mt alike.mpr opens
      cases handed with
      | stepped stepped => exact absurd stepped.opens opens
      | found identifier finds =>
          cases again with
          | stepped stepped => exact absurd stepped.opens reopens
          | found other found => exact finds.unique found same

/-- The root, children and children with a name are known by their opening tags. The first
compatible node is known by where a run of tokens from the start of the block ends, in front of its
opening tag and any NOP tags before that. So a node has two handles only where one of them is that
of a NOP tag, and every node has one handle exactly where no compatible node is found there. -/
theorem handles_of_any_bytes (tree : DeviceTree) :
    (∀ node, tree.Stepped node → tree.Opens node) ∧
      (∀ identifier node, tree.Finds identifier node →
        Relation.ReflTransGen tree.Precedes 0 node.offset ∧
          tree.Opens ⟨tree.skipNops node.offset⟩ ∧
          (tree.Opens node ↔ tree.tokens.be32? node.offset ≠ some Tag.nop)) ∧
      (∀ node also, tree.Handed node → tree.Handed also → tree.SameNode node also →
        (node = also ↔ (tree.Opens node ↔ tree.Opens also))) ∧
      (tree.OneHandle ↔ ∀ identifier node, tree.Finds identifier node →
        tree.tokens.be32? node.offset ≠ some Tag.nop) := by
  refine ⟨fun node stepped => stepped.opens, ?_, fun node also handed again same =>
    handed.eq_iff again same, ?_⟩
  · intro identifier node found
    obtain ⟨run, title, body, read⟩ := findCompatible_found found
    exact ⟨run, opens_skipNops read, found.opens_iff⟩
  · constructor
    · intro one identifier node found
      exact found.opens_iff.mp (one.opens node (.found identifier found))
    · intro clear
      have opens : ∀ node, tree.Handed node → tree.Opens node := by
        intro node handed
        cases handed with
        | stepped stepped => exact stepped.opens
        | found identifier found => exact found.opens_iff.mpr (clear identifier node found)
      exact ⟨opens, fun node also handed again same =>
        (opens node handed).unique (opens also again) same⟩

def gappedRoot : Window := Window.ofBytes
  [0xd0, 0x0d, 0xfe, 0xed, 0, 0, 0, 87, 0, 0, 0, 40, 0, 0, 0, 76, 0, 0, 0, 40, 0, 0, 0, 17,
    0, 0, 0, 16, 0, 0, 0, 0, 0, 0, 0, 11, 0, 0, 0, 36,
    0, 0, 0, 4, 0, 0, 0, 1, 0, 0, 0, 0, 0, 0, 0, 3, 0, 0, 0, 2, 0, 0, 0, 0, 120, 0, 0, 0,
    0, 0, 0, 2, 0, 0, 0, 9,
    99, 111, 109, 112, 97, 116, 105, 98, 108, 101, 0]

theorem gapped_root_has_two_handles :
    ∃ tree, (ofWindow gappedRoot).result = .ok tree ∧ tree.root.result = .ok ⟨4⟩ ∧
      (tree.findCompatible "x").result = .ok (some ⟨0⟩) ∧ tree.SameNode ⟨4⟩ ⟨0⟩ ∧
      tree.tokens.be32? 0 = some Tag.nop ∧ ¬ tree.OneHandle := by
  have root : (ofWindow gappedRoot >>= fun tree => tree.root).result = .ok ⟨4⟩ :=
    eq_of_toOption (by decide +kernel) (by decide +kernel)
  have found : (ofWindow gappedRoot >>= fun tree => tree.findCompatible "x").result =
      .ok (some ⟨0⟩) := eq_of_toOption (by decide +kernel) (by decide +kernel)
  have word : (ofWindow gappedRoot >>= fun tree => pure (tree.tokens.be32? 0)).result =
      .ok (some Tag.nop) := eq_of_toOption (by decide +kernel) (by decide +kernel)
  obtain ⟨tree, read, root⟩ := Report.bind_ok_iff.mp root
  rw [Report.result_bind, read] at found word
  replace found : tree.Finds "x" ⟨0⟩ := found
  replace word : tree.tokens.be32? 0 = some Tag.nop := Except.ok.inj word
  have opens := (Stepped.root root).opens
  have behind : tree.skipNops 0 = tree.skipNops 4 := by
    rw [skipNops, dif_pos word]
  refine ⟨tree, read, root, found, behind.symm, word, fun one => ?_⟩
  have same := one.unique ⟨4⟩ ⟨0⟩ (.stepped (.root root)) (.found "x" found) behind.symm
  cases same

end DeviceTree

end PartitionBoot
