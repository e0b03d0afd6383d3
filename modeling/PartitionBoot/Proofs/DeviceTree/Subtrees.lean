import PartitionBoot.Proofs.DeviceTree.Readings

/-!
Subtrees in arbitrary bytes. A step over a node accepts exactly the tokens that open and close nodes
in balance, with properties anywhere between them, up to the token that closes the node itself; a
step over properties accepts a run of them up to the first token of another kind.
-/

namespace PartitionBoot

namespace DeviceTree

variable {tree : DeviceTree} {start offset next stop last depth : Nat} {token : Token}
  {α β : Type}

inductive Properties (tree : DeviceTree) : Nat → Nat → Prop where
  | none (offset : Nat) : Properties tree offset offset
  | property {offset next stop : Nat} {nameOffset : UInt32} {value : Window}
      (read : tree.Reads offset (.property nameOffset value) next)
      (rest : Properties tree next stop) : Properties tree offset stop

/-- Tokens that close the nodes they open, and no others. -/
inductive Balanced (tree : DeviceTree) : Nat → Nat → Prop where
  | none (offset : Nat) : Balanced tree offset offset
  | property {offset next stop : Nat} {nameOffset : UInt32} {value : Window}
      (read : tree.Reads offset (.property nameOffset value) next)
      (rest : Balanced tree next stop) : Balanced tree offset stop
  | node {offset inside last next stop : Nat} {name : Window}
      (opened : tree.Reads offset (.beginNode name) inside) (within : Balanced tree inside last)
      (closed : tree.Reads last .endNode next) (rest : Balanced tree next stop) :
      Balanced tree offset stop

/-- A node from its opening token to behind the token that closes it. -/
def Subtree (tree : DeviceTree) (offset stop : Nat) : Prop :=
  ∃ name inside last, tree.Reads offset (.beginNode name) inside ∧ tree.Balanced inside last ∧
    tree.Reads last .endNode stop

/-- The tokens close the innermost of the open nodes and this many more around it. -/
inductive Closes (tree : DeviceTree) : Nat → Nat → Nat → Prop where
  | innermost {offset last stop : Nat} (inside : tree.Balanced offset last)
      (closed : tree.Reads last .endNode stop) : Closes tree 0 offset stop
  | around {depth offset last next stop : Nat} (inside : tree.Balanced offset last)
      (closed : tree.Reads last .endNode next) (rest : Closes tree depth next stop) :
      Closes tree (depth + 1) offset stop

theorem Closes.property {nameOffset : UInt32} {value : Window}
    (closes : tree.Closes depth next stop)
    (read : tree.Reads offset (.property nameOffset value) next) :
    tree.Closes depth offset stop := by
  cases closes with
  | innermost inside closed => exact .innermost (.property read inside) closed
  | around inside closed rest => exact .around (.property read inside) closed rest

theorem Closes.node {name : Window} (closes : tree.Closes (depth + 1) next stop)
    (opened : tree.Reads offset (.beginNode name) next) : tree.Closes depth offset stop := by
  cases closes with
  | around within closed rest =>
      cases rest with
      | innermost inside ended => exact .innermost (.node opened within closed inside) ended
      | around inside ended rest => exact .around (.node opened within closed inside) ended rest

/-! Walks. -/

theorem walkFrom_ok_iff {visit : Visit tree start α β} {carried : β} {result : α}
    {reached : start ≤ offset} :
    (tree.walkFrom start visit carried offset reached).result = .ok result ↔
      ∃ located : Located tree.tokens.size offset, (tree.token offset).result = .ok located ∧
        ((visit carried offset reached located).result = .ok (.inl result) ∨
          ∃ handed, (visit carried offset reached located).result = .ok (.inr handed) ∧
            (tree.walkFrom start visit handed located.next
              (Nat.le_trans reached (Nat.le_of_add_right_le located.advances))).result =
                .ok result) := by
  rw [walkFrom, Report.bind_ok_iff]
  refine exists_congr fun located => and_congr_right fun _ => ?_
  rw [Report.bind_ok_iff]
  constructor
  · rintro ⟨told, visited, went⟩
    cases told with
    | inl value =>
        cases went
        exact .inl visited
    | inr handed => exact .inr ⟨handed, visited, went⟩
  · rintro (visited | ⟨handed, visited, went⟩)
    · exact ⟨.inl result, visited, rfl⟩
    · exact ⟨.inr handed, visited, went⟩

theorem Balanced.le (balanced : tree.Balanced offset stop) : offset ≤ stop := by
  induction balanced with
  | none offset => exact Nat.le_refl offset
  | property read rest ih =>
      have advances := read.advances
      omega
  | node opened within closed rest ihWithin ihRest =>
      have into := opened.advances
      have behind := closed.advances
      omega

theorem closes_of_walk {stop : { stop : Nat // start < stop }} {reached : start ≤ offset}
    (walked : (tree.walkFrom start (tree.closingVisit start) (depth + 1) offset reached).result =
      .ok stop) : tree.Closes depth offset stop := by
  -- The depth changes from token to token, so the induction is on what is left to read.
  induction left : tree.tokens.size - offset using Nat.strongRecOn generalizing offset depth with
  | ind left ih =>
      obtain ⟨located, found, visited⟩ := walkFrom_ok_iff.mp walked
      have read := reads_of_token found
      have inside := located.inside
      have advances := located.advances
      have further : ∀ {depth : Nat} {reached : start ≤ located.next},
          (tree.walkFrom start (tree.closingVisit start) (depth + 1) located.next
            reached).result = .ok stop → tree.Closes depth located.next stop :=
        fun went => ih _ (by omega) went rfl
      cases same : located.token with
      | beginNode name =>
          simp only [closingVisit, same, Report.result_pure, Except.ok.injEq, reduceCtorEq,
            Sum.inr.injEq, exists_eq_left', false_or] at visited
          exact (further visited).node (same ▸ read)
      | endNode =>
          cases depth with
          | zero =>
              simp only [closingVisit, same, Report.result_pure, Except.ok.injEq, reduceCtorEq,
                Sum.inl.injEq, false_and, exists_false, or_false] at visited
              subst visited
              exact .innermost (.none offset) (same ▸ read)
          | succ depth =>
              simp only [closingVisit, same, Report.result_pure, Except.ok.injEq, reduceCtorEq,
                Sum.inr.injEq, exists_eq_left', false_or] at visited
              exact .around (.none offset) (same ▸ read) (further visited)
      | property nameOffset value =>
          simp only [closingVisit, same, Report.result_pure, Except.ok.injEq, reduceCtorEq,
            Sum.inr.injEq, exists_eq_left', false_or] at visited
          exact (further visited).property (same ▸ read)
      | finish =>
          simp only [closingVisit, same, Report.result_fail, reduceCtorEq, false_and,
            exists_false, or_false] at visited

/-- Below an open node, stepping over it passes whatever is balanced. -/
theorem closing_walk_balanced (balanced : tree.Balanced offset last) (depth : Nat)
    (reached : start ≤ offset) (further : start ≤ last) :
    (tree.walkFrom start (tree.closingVisit start) (depth + 1) offset reached).result =
      (tree.walkFrom start (tree.closingVisit start) (depth + 1) last further).result := by
  induction balanced generalizing depth with
  | none offset => rfl
  | property read rest ih =>
      have advances := read.advances
      rw [walk_goes (depth + 1) read ?_ reached (by omega)]
      · exact ih depth (by omega) further
      · intro reached located same
        simp [closingVisit, same]
  | node opened within closed rest ihWithin ihRest =>
      have into := opened.advances
      have below := within.le
      have behind := closed.advances
      rw [walk_goes (depth + 2) opened ?_ reached (by omega)]
      · rw [ihWithin (depth + 1) (by omega) (by omega)]
        rw [walk_goes (depth + 1) closed ?_ (by omega) (by omega)]
        · exact ihRest depth (by omega) further
        · intro reached located same
          simp [closingVisit, same]
      · intro reached located same
        simp [closingVisit, same]

theorem skipNode_ok_iff {name : Window} (opened : tree.Reads offset (.beginNode name) next) :
    (∃ behind, (tree.skipNode offset).result = .ok ⟨stop, behind⟩) ↔ tree.Subtree offset stop := by
  have into := opened.advances
  have entered : (tree.skipNode offset).result = (tree.walkFrom offset (tree.closingVisit offset)
      1 next (by omega)).result := by
    refine walk_goes 1 opened ?_ (Nat.le_refl offset) _
    intro reached located same
    simp [closingVisit, same]
  constructor
  · rintro ⟨behind, skipped⟩
    rw [entered] at skipped
    cases closes_of_walk skipped with
    | innermost inside closed => exact ⟨name, next, _, opened, inside, closed⟩
  · rintro ⟨again, inside, last, reopened, balanced, closed⟩
    obtain ⟨_, rfl⟩ := opened.unique reopened
    have below := balanced.le
    have advances := closed.advances
    refine ⟨by omega, ?_⟩
    rw [entered, closing_walk_balanced balanced 0 _ (by omega)]
    refine walk_stops closed ?_ _
    intro reached located token behind
    simp only [closingVisit, token, behind]
    rfl

theorem Properties.le (properties : tree.Properties offset stop) : offset ≤ stop := by
  induction properties with
  | none offset => exact Nat.le_refl offset
  | property read rest ih =>
      have advances := read.advances
      omega

theorem Properties.balanced (properties : tree.Properties offset next)
    (rest : tree.Balanced next stop) : tree.Balanced offset stop := by
  induction properties with
  | none offset => exact rest
  | property read run ih => exact .property read (ih rest)

theorem properties_of_walk {stop : { stop : Nat // start ≤ stop }} {carried : Unit}
    {reached : start ≤ offset}
    (walked : (tree.walkFrom start (tree.propertiesVisit start) carried offset reached).result =
      .ok stop) : tree.Properties offset stop.val := by
  fun_induction walkFrom tree start (tree.propertiesVisit start) carried offset reached with
  | case1 carried offset reached ih =>
      obtain ⟨located, found, walked⟩ := Report.bind_ok_iff.mp walked
      obtain ⟨told, visited, walked⟩ := Report.bind_ok_iff.mp walked
      simp only [propertiesVisit] at visited
      split at visited
      · rename_i nameOffset value same
        cases visited
        exact .property (same ▸ reads_of_token found) (ih located () walked)
      · cases visited
        cases walked
        exact .none offset

theorem walk_run {visit : Visit tree start α β} {carried : β}
    (passes : ∀ offset (reached : start ≤ offset) (located : Located tree.tokens.size offset)
      nameOffset value, located.token = .property nameOffset value →
        (visit carried offset reached located).result = .ok (.inr carried))
    (run : tree.Properties offset stop) (reached : start ≤ offset) (further : start ≤ stop) :
    (tree.walkFrom start visit carried offset reached).result =
      (tree.walkFrom start visit carried stop further).result := by
  induction run with
  | none offset => rfl
  | property read rest ih =>
      have advances := read.advances
      rw [walk_goes carried read ?_ reached (by omega)]
      · exact ih (by omega) further
      · intro reached located same
        exact passes _ reached located _ _ same

theorem skipProperties_ok (properties : tree.Properties start stop)
    (behind : tree.Reads stop token next)
    (other : ∀ nameOffset value, token ≠ .property nameOffset value) :
    ∃ reached, (tree.skipProperties start).result = .ok ⟨stop, reached⟩ := by
  refine ⟨properties.le, ?_⟩
  rw [DeviceTree.skipProperties, walk, walk_run ?_ properties (Nat.le_refl start) properties.le]
  · refine walk_stops behind ?_ _
    intro reached located same _
    simp only [propertiesVisit]
    split
    · rename_i nameOffset value property
      exact absurd (same.symm.trans property) (other nameOffset value)
    · rfl
  · intro offset reached located nameOffset value same
    simp [propertiesVisit, same]

/-! What follows in a row of siblings. -/

inductive Follows (tree : DeviceTree) (start : Nat) : Option Node → Prop where
  | closing {next : Nat} (read : tree.Reads start .endNode next) : Follows tree start none
  | opening {next : Nat} {name : Window} (read : tree.Reads start (.beginNode name) next) :
      Follows tree start (some ⟨tree.skipNops start⟩)

def Upcoming.node? (upcoming : tree.Upcoming offset) : Except BootFailure (Option Node) :=
  upcoming.map (Option.map NodeFrom.node)

theorem node?_ok_iff {upcoming : tree.Upcoming offset} {found : Option Node} :
    upcoming.node? = .ok found ↔
      ∃ answer, upcoming = .ok answer ∧ answer.map NodeFrom.node = found := by
  cases upcoming with
  | error failure => simp [Upcoming.node?, Except.map]
  | ok answer => simp [Upcoming.node?, Except.map]

theorem Follows.reads {found : Option Node} (follows : tree.Follows start found) :
    ∃ token next, tree.Reads start token next ∧
      ∀ nameOffset value, token ≠ .property nameOffset value := by
  cases follows with
  | closing read =>
      refine ⟨_, _, read, ?_⟩
      intro nameOffset value same
      cases same
  | opening read =>
      refine ⟨_, _, read, ?_⟩
      intro nameOffset value same
      cases same

theorem nodeAt_ok_iff {found : Option Node} (behind : offset ≤ start) :
    Upcoming.node? (tree.nodeAt start behind).result = .ok found ↔ tree.Follows start found := by
  constructor
  · intro told
    obtain ⟨answer, looked, rfl⟩ := node?_ok_iff.mp told
    obtain ⟨located, told, looked⟩ := Report.bind_ok_iff.mp looked
    have read := reads_skipNops.mp (reads_of_token told)
    split at looked
    · rename_i name same
      cases looked
      exact .opening (same ▸ read)
    · rename_i same
      cases looked
      exact .closing (same ▸ read)
    · cases looked
  · intro follows
    cases follows with
    | closing read =>
        obtain ⟨located, told, same, _⟩ := reads_skipNops.mpr read
        simp only [DeviceTree.nodeAt, Report.result_bind, told, Except.bind, same,
          Report.result_pure]
        rfl
    | opening read =>
        obtain ⟨located, told, same, _⟩ := reads_skipNops.mpr read
        simp only [DeviceTree.nodeAt, Report.result_bind, told, Except.bind, same,
          Report.result_pure]
        rfl

theorem firstChild_ok_iff {node : Node} {name : Window} {found : Option Node}
    (opened : tree.Reads node.offset (.beginNode name) next) :
    Upcoming.node? (tree.firstChild node).result = .ok found ↔
      ∃ start, tree.Properties next start ∧ tree.Follows start found := by
  obtain ⟨_, body⟩ := body_ok opened
  constructor
  · intro looked
    obtain ⟨answer, looked, same⟩ := node?_ok_iff.mp looked
    obtain ⟨entered, again, looked⟩ := Report.bind_ok_iff.mp looked
    rw [body] at again
    cases again
    obtain ⟨⟨start, reached⟩, skipped, looked⟩ := Report.bind_ok_iff.mp looked
    exact ⟨start, properties_of_walk skipped,
      (nodeAt_ok_iff _).mp (node?_ok_iff.mpr ⟨answer, looked, same⟩)⟩
  · rintro ⟨start, properties, follows⟩
    obtain ⟨token, behind, read, other⟩ := follows.reads
    obtain ⟨reached, skipped⟩ := skipProperties_ok properties read other
    simp only [DeviceTree.firstChild, Report.result_bind, body, Except.bind, skipped]
    exact (nodeAt_ok_iff _).mpr follows

theorem nextSibling_ok_iff {node : Node} {name : Window} {found : Option Node}
    (opened : tree.Reads node.offset (.beginNode name) next) :
    Upcoming.node? (tree.nextSibling node).result = .ok found ↔
      ∃ start, tree.Subtree node.offset start ∧ tree.Follows start found := by
  constructor
  · intro looked
    obtain ⟨answer, looked, same⟩ := node?_ok_iff.mp looked
    obtain ⟨⟨start, behind⟩, skipped, looked⟩ := Report.bind_ok_iff.mp looked
    exact ⟨start, (skipNode_ok_iff opened).mp ⟨behind, skipped⟩,
      (nodeAt_ok_iff _).mp (node?_ok_iff.mpr ⟨answer, looked, same⟩)⟩
  · rintro ⟨start, subtree, follows⟩
    obtain ⟨behind, skipped⟩ := (skipNode_ok_iff opened).mpr subtree
    simp only [DeviceTree.nextSibling, Report.result_bind, skipped, Except.bind]
    exact (nodeAt_ok_iff _).mpr follows

/-! Failures. -/

theorem nodeAt_failsOnly (tree : DeviceTree) (behind : offset ≤ start) :
    (tree.nodeAt start behind).FailsOnly Structural := by
  refine Report.failsOnly_bind (tree.token_failsOnly _) fun located _ => ?_
  split
  · exact Report.failsOnly_pure _
  · exact Report.failsOnly_pure _
  · exact Report.failsOnly_fail (.inr rfl)

theorem firstChild_failsOnly (tree : DeviceTree) (node : Node) :
    (tree.firstChild node).FailsOnly Structural := by
  refine Report.failsOnly_bind (tree.body_failsOnly node) fun entered _ => ?_
  refine Report.failsOnly_bind ?_ fun skipped _ => tree.nodeAt_failsOnly _
  refine walkFrom_failsOnly ?_ _ _ _
  intro carried offset reached located
  simp only [propertiesVisit]
  split
  · exact Report.failsOnly_pure _
  · exact Report.failsOnly_pure _

theorem nextSibling_failsOnly (tree : DeviceTree) (node : Node) :
    (tree.nextSibling node).FailsOnly Structural := by
  refine Report.failsOnly_bind ?_ fun skipped _ => tree.nodeAt_failsOnly _
  refine walkFrom_failsOnly ?_ _ _ _
  intro depth offset reached located
  simp only [closingVisit]
  split
  · exact Report.failsOnly_pure _
  · exact Report.failsOnly_fail (.inr rfl)
  · exact Report.failsOnly_pure _
  · exact Report.failsOnly_pure _
  · exact Report.failsOnly_pure _
  · exact Report.failsOnly_fail (.inr rfl)

end DeviceTree

end PartitionBoot
