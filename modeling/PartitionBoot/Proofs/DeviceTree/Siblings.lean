import PartitionBoot.Proofs.DeviceTree.Subtrees

/-!
The children of a node in arbitrary bytes. Drained or taken one by one, they are the openings of
consecutive subtrees behind the properties of the node; the row ends without a failure exactly
where the node is closed.
-/

namespace PartitionBoot

namespace DeviceTree

variable {tree : DeviceTree} {start offset body : Nat} {node child : Node}
  {children others found : List Node} {further : Option Node} {cut : Option BootFailure}
  {upcoming : Except BootFailure (Option Node)} {place : Nat → Prop}

/-! What stands in the bytes. -/

inductive Subtrees (tree : DeviceTree) : Nat → List Node → Nat → Prop where
  | none (start : Nat) : Subtrees tree start [] start
  | node {start next stop : Nat} {child : Node} {others : List Node}
      (opens : tree.Follows start (some child)) (whole : tree.Subtree child.offset next)
      (rest : Subtrees tree next others stop) : Subtrees tree start (child :: others) stop

/-- From a node on, the tokens read its opening, properties, the whole subtrees of these children,
and then the opening of a further child or, where there is none, the closing of the node. -/
def Encloses (tree : DeviceTree) (node : Node) (children : List Node) (further : Option Node) :
    Prop :=
  ∃ name body start stop, tree.Reads node.offset (.beginNode name) body ∧
    tree.Properties body start ∧ tree.Subtrees start children stop ∧ tree.Follows stop further

def RowFrom (tree : DeviceTree) (place : Nat → Prop) (children : List Node)
    (further : Option Node) : Prop :=
  ∃ start stop, place start ∧ tree.Subtrees start children stop ∧ tree.Follows stop further

theorem rowFrom_nil : tree.RowFrom place [] further ↔
    ∃ start, place start ∧ tree.Follows start further := by
  constructor
  · rintro ⟨start, stop, here, subtrees, follows⟩
    cases subtrees
    exact ⟨start, here, follows⟩
  · rintro ⟨start, here, follows⟩
    exact ⟨start, start, here, .none start, follows⟩

theorem rowFrom_cons : tree.RowFrom place (child :: others) further ↔
    (∃ start, place start ∧ tree.Follows start (some child)) ∧
      tree.RowFrom (tree.Subtree child.offset) others further := by
  constructor
  · rintro ⟨start, stop, here, subtrees, follows⟩
    cases subtrees with
    | node opens whole rest => exact ⟨⟨start, here, opens⟩, _, stop, whole, rest, follows⟩
  · rintro ⟨⟨start, here, opens⟩, next, stop, whole, rest, follows⟩
    exact ⟨start, stop, here, .node opens whole rest, follows⟩

theorem encloses_iff_rowFrom {name : Window} (opened : tree.Reads node.offset (.beginNode name) body) :
    tree.Encloses node children further ↔
      tree.RowFrom (tree.Properties body) children further := by
  constructor
  · rintro ⟨again, entered, start, stop, reopened, row⟩
    obtain ⟨_, rfl⟩ := opened.unique reopened
    exact ⟨start, stop, row⟩
  · rintro ⟨start, stop, row⟩
    exact ⟨name, body, start, stop, opened, row⟩

theorem Follows.opened (follows : tree.Follows start (some child)) :
    ∃ name next, tree.Reads child.offset (.beginNode name) next := by
  cases follows with
  | opening read => exact ⟨_, _, reads_skipNops.mpr read⟩

/-! What a reader of the row is told. -/

def firstChild? (tree : DeviceTree) (node : Node) : Except BootFailure (Option Node) :=
  Upcoming.node? (tree.firstChild node).result

def nextSibling? (tree : DeviceTree) (node : Node) : Except BootFailure (Option Node) :=
  Upcoming.node? (tree.nextSibling node).result

/-- A look for the next node tells what follows from one of these places on. -/
structure Tells (tree : DeviceTree) (place : Nat → Prop)
    (upcoming : Except BootFailure (Option Node)) : Prop where
  ok_iff : ∀ further, upcoming = .ok further ↔ ∃ start, place start ∧ tree.Follows start further
  structural : ∀ failure, upcoming = .error failure → Structural failure

theorem Tells.row_nil (tells : tree.Tells place upcoming) :
    tree.RowFrom place [] further ↔ upcoming = .ok further := by
  rw [rowFrom_nil, tells.ok_iff]

theorem Tells.row_cons (tells : tree.Tells place upcoming) :
    tree.RowFrom place (child :: others) further ↔ upcoming = .ok (some child) ∧
      tree.RowFrom (tree.Subtree child.offset) others further := by
  rw [rowFrom_cons, tells.ok_iff]

theorem Tells.opened (tells : tree.Tells place (.ok (some child))) :
    ∃ name body, tree.Reads child.offset (.beginNode name) body := by
  obtain ⟨start, _, opens⟩ := (tells.ok_iff (some child)).mp rfl
  exact opens.opened

theorem node?_failsOnly {upcoming : tree.Upcoming offset}
    (fails : ∀ failure, upcoming = .error failure → Structural failure) :
    ∀ failure, upcoming.node? = .error failure → Structural failure := by
  intro failure failed
  cases upcoming with
  | error same =>
      cases failed
      exact fails failure rfl
  | ok answer => cases failed

theorem firstChild?_tells {name : Window}
    (opened : tree.Reads node.offset (.beginNode name) body) :
    tree.Tells (tree.Properties body) (tree.firstChild? node) where
  ok_iff _ := firstChild_ok_iff opened
  structural := node?_failsOnly (tree.firstChild_failsOnly node)

theorem nextSibling?_tells {name : Window}
    (opened : tree.Reads node.offset (.beginNode name) body) :
    tree.Tells (tree.Subtree node.offset) (tree.nextSibling? node) where
  ok_iff _ := nextSibling_ok_iff opened
  structural := node?_failsOnly (tree.nextSibling_failsOnly node)

theorem firstChild?_after (looked : tree.firstChild? node = .ok (some child)) :
    node.offset < child.offset := by
  obtain ⟨answer, _, same⟩ := node?_ok_iff.mp looked
  obtain ⟨found, _, rfl⟩ := Option.map_eq_some_iff.mp same
  exact found.after

theorem nextSibling?_after (looked : tree.nextSibling? node = .ok (some child)) :
    node.offset < child.offset := by
  obtain ⟨answer, _, same⟩ := node?_ok_iff.mp looked
  obtain ⟨found, _, rfl⟩ := Option.map_eq_some_iff.mp same
  exact found.after

/-- What draining a row from an upcoming node on finds, and the failure that cuts it short. -/
inductive Drains (tree : DeviceTree) :
    Except BootFailure (Option Node) → List Node → Option BootFailure → Prop where
  | failed (failure : BootFailure) : Drains tree (.error failure) [] (some failure)
  | ended : Drains tree (.ok none) [] none
  | node {child : Node} {others : List Node} {cut : Option BootFailure}
      (rest : Drains tree (tree.nextSibling? child) others cut) :
      Drains tree (.ok (some child)) (child :: others) cut

theorem drainFrom_drains (ε : Type) (tree : DeviceTree) (offset : Nat)
    (upcoming : tree.Upcoming offset) :
    ∃ found cut, (tree.drainFrom offset upcoming : Report ε _).result = .ok (found, cut) ∧
      tree.Drains upcoming.node? found cut := by
  fun_induction @drainFrom ε tree offset upcoming with
  | case1 offset failure => exact ⟨[], some failure, rfl, .failed failure⟩
  | case2 offset => exact ⟨[], none, rfl, .ended⟩
  | case3 offset found ih =>
      obtain ⟨others, cut, drained, drains⟩ := ih (tree.nextSibling found.node).result
      refine ⟨found.node :: others, cut, ?_, .node drains⟩
      simp only [Report.result_bind, Report.result_attempt, Except.bind, drained,
        Report.result_pure]

theorem Drains.unique {others : List Node} {also : Option BootFailure}
    (drains : tree.Drains upcoming found cut) (again : tree.Drains upcoming others also) :
    found = others ∧ cut = also := by
  induction drains generalizing others with
  | failed failure =>
      cases again
      exact ⟨rfl, rfl⟩
  | ended =>
      cases again
      exact ⟨rfl, rfl⟩
  | node rest ih =>
      cases again with
      | node later =>
          obtain ⟨rfl, rfl⟩ := ih later
          exact ⟨rfl, rfl⟩

theorem Drains.row_iff (drains : tree.Drains upcoming found cut)
    (tells : tree.Tells place upcoming) (children : List Node) (further : Option Node) :
    tree.RowFrom place children further ↔
      match further with
      | some child => children ++ [child] <+: found
      | none => children = found ∧ cut = none := by
  induction drains generalizing place children with
  | failed failure =>
      cases children with
      | nil => cases further <;> simp [tells.row_nil]
      | cons first behind => cases further <;> simp [tells.row_cons]
  | ended =>
      cases children with
      | nil => cases further <;> simp [tells.row_nil]
      | cons first behind => cases further <;> simp [tells.row_cons]
  | node rest ih =>
      obtain ⟨name, body, opened⟩ := tells.opened
      have later := ih (nextSibling?_tells opened)
      cases children with
      | nil => cases further <;> simp [tells.row_nil, eq_comm]
      | cons first behind =>
          rw [tells.row_cons, Except.ok.injEq, Option.some.injEq]
          constructor
          · rintro ⟨rfl, row⟩
            have prior := (later behind).mp row
            cases further with
            | none => simpa using prior
            | some further => simpa using prior
          · intro prior
            cases further with
            | none =>
                obtain ⟨same, clean⟩ := prior
                cases same
                exact ⟨rfl, (later _).mpr ⟨rfl, clean⟩⟩
            | some further =>
                obtain ⟨same, front⟩ := List.cons_prefix_cons.mp prior
                cases same
                exact ⟨rfl, (later behind).mpr front⟩

theorem Drains.structural (drains : tree.Drains upcoming found cut)
    (tells : tree.Tells place upcoming) : ∀ failure, cut = some failure → Structural failure := by
  induction drains generalizing place with
  | failed failure =>
      intro same told
      cases told
      exact tells.structural failure rfl
  | ended =>
      intro failure told
      cases told
  | node rest ih =>
      obtain ⟨name, body, opened⟩ := tells.opened
      exact ih (nextSibling?_tells opened)

theorem Drains.increasing (drains : tree.Drains upcoming found cut)
    (after : ∀ child, upcoming = .ok (some child) → node.offset < child.offset) :
    (node :: found).Pairwise fun first second => first.offset < second.offset := by
  induction drains generalizing node with
  | failed failure => simp
  | ended => simp
  | node rest ih =>
      rename_i child others cut
      have here : node.offset < child.offset := after child rfl
      have sorted := ih fun sibling looked => nextSibling?_after looked
      refine List.pairwise_cons.mpr ⟨?_, sorted⟩
      intro other member
      obtain rfl | member := List.mem_cons.mp member
      · exact here
      · have behind := (List.pairwise_cons.mp sorted).1 other member
        omega

/-! Children one by one. -/

/-- An iterator over the children of a node: what the last look for a child found, or nothing once
the row has ended or a failure was handed out. -/
abbrev Subnodes : Type := Option (Except BootFailure (Option Node))

def subnodes (tree : DeviceTree) (node : Node) : Subnodes := some (tree.firstChild? node)

def Subnodes.next (tree : DeviceTree) : Subnodes → Option (Except BootFailure Node) × Subnodes
  | some (.ok (some node)) => (some (.ok node), some (tree.nextSibling? node))
  | some (.ok none) => (none, none)
  | some (.error failure) => (some (.error failure), none)
  | none => (none, none)

/-- What an iterator hands out after it was asked this many times before. -/
def Subnodes.nth (tree : DeviceTree) (state : Subnodes) : Nat → Option (Except BootFailure Node)
  | 0 => (next tree state).1
  | count + 1 => nth tree (next tree state).2 count

theorem Subnodes.nth_spent (tree : DeviceTree) (count : Nat) : nth tree none count = none := by
  induction count with
  | zero => rfl
  | succ count ih => exact ih

theorem Drains.nth (drains : tree.Drains upcoming found cut) (count : Nat) :
    Subnodes.nth tree (some upcoming) count =
      (found.map Except.ok ++ cut.toList.map Except.error)[count]? := by
  induction drains generalizing count with
  | failed failure =>
      cases count with
      | zero => rfl
      | succ count => exact Subnodes.nth_spent tree count
  | ended =>
      cases count with
      | zero => rfl
      | succ count => exact Subnodes.nth_spent tree count
  | node rest ih =>
      cases count with
      | zero => rfl
      | succ count => exact ih count

theorem children_drains (ε : Type) (tree : DeviceTree) (node : Node) :
    ∃ found cut, (tree.children node : Report ε _).result = .ok (found, cut) ∧
      tree.Drains (tree.firstChild? node) found cut := by
  simp only [DeviceTree.children, Report.result_bind, Report.result_attempt, Except.bind]
  exact tree.drainFrom_drains ε (node.offset + 1) (tree.firstChild node).result

/-- What was drained says which children stand whole in a node, and what follows behind them. -/
theorem Drains.encloses_iff {name : Window} (drains : tree.Drains (tree.firstChild? node) found cut)
    (opened : tree.Reads node.offset (.beginNode name) body) (children : List Node)
    (further : Option Node) :
    tree.Encloses node children further ↔
      match further with
      | some child => children ++ [child] <+: found
      | none => children = found ∧ cut = none := by
  rw [encloses_iff_rowFrom opened]
  exact drains.row_iff (firstChild?_tells opened) children further

/-- Draining the children of a node at an opening token always comes to an end: with the children
whose whole subtrees fill the node, or with those up to the first thing that is not a child. -/
theorem children_of_any_bytes (ε : Type) {name : Window}
    (opened : tree.Reads node.offset (.beginNode name) body) :
    (∀ children, (tree.children node : Report ε _).result = .ok (children, none) ↔
        tree.Encloses node children none) ∧
      ∃ found cut, (tree.children node : Report ε _).result = .ok (found, cut) ∧
        (∀ children child, tree.Encloses node children (some child) ↔
          children ++ [child] <+: found) ∧
        ((node :: found).Pairwise fun first second => first.offset < second.offset) ∧
        (∀ failure, cut = some failure → Structural failure) ∧
        ∀ count, (tree.subnodes node).nth tree count =
          (found.map Except.ok ++ cut.toList.map Except.error)[count]? := by
  obtain ⟨found, cut, drained, drains⟩ := tree.children_drains ε node
  refine ⟨?_, found, cut, drained, ?_, ?_, ?_, drains.nth⟩
  · intro children
    rw [drained, drains.encloses_iff opened, Except.ok.injEq, Prod.mk.injEq, eq_comm (a := found)]
  · intro children child
    exact drains.encloses_iff opened children (some child)
  · exact drains.increasing fun child looked => firstChild?_after looked
  · exact drains.structural (firstChild?_tells opened)

def openRow : DeviceTree where
  tokens := Window.ofBytes [0, 0, 0, 1, 0, 0, 0, 0, 0, 0, 0, 4, 0, 0, 0, 1, 97, 0, 0, 0,
    0, 0, 0, 2, 0, 0, 0, 1, 98, 0, 0, 0]
  names := Window.ofBytes []

theorem open_row_reads : ∃ name, openRow.Reads (Node.mk 0).offset (.beginNode name) 8 := by
  have place : openRow.skipNops 0 = 0 := by decide +kernel
  exact ⟨_, token_beginNode place (by decide +kernel) rfl
    (show Window.indexOf? _ 0 = some 0 by decide +kernel)⟩

theorem open_row_children :
    (∃ name, openRow.Reads 0 (.beginNode name) 8) ∧
      (openRow.children ⟨0⟩ : Report Unit _).result = .ok ([⟨12⟩, ⟨24⟩], some outside) ∧
      openRow.Encloses ⟨0⟩ [⟨12⟩] (some ⟨24⟩) ∧
      (∀ children, ¬ openRow.Encloses ⟨0⟩ children none) ∧
      (List.range 4).map ((openRow.subnodes ⟨0⟩).nth openRow) =
        [some (.ok ⟨12⟩), some (.ok ⟨24⟩), some (.error outside), none] := by
  obtain ⟨name, opened⟩ := open_row_reads
  obtain ⟨closed, found, cut, drained, opens, _, _, handed⟩ :=
    children_of_any_bytes Unit opened
  have told : (openRow.children ⟨0⟩ : Report Unit _).result =
      .ok ([⟨12⟩, ⟨24⟩], some outside) :=
    eq_of_toOption (by decide +kernel) (by decide +kernel)
  rw [drained] at told
  cases told
  refine ⟨⟨name, opened⟩, drained, ?_, ?_, ?_⟩
  · exact (opens _ _).mpr (by decide)
  · intro children encloses
    have clean := (closed children).mpr encloses
    rw [drained] at clean
    cases clean
  · rw [List.map_congr_left fun count _ => handed count]
    rfl

end DeviceTree

end PartitionBoot
