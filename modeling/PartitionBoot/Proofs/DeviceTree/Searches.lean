import PartitionBoot.Proofs.DeviceTree.Siblings

/-!
Searches among the children of a node in arbitrary bytes. The first child that a visit does not pass
decides, whatever stands behind its opening and its own properties; a fault in the row counts only
where every child before it was passed.
-/

namespace PartitionBoot

namespace DeviceTree

variable {tree : DeviceTree} {offset : Nat} {node child : Node} {before children found : List Node}
  {cut : Option BootFailure} {α : Type} {visit : Node → Report BootFailure (Option α)}

def Passes (visit : Node → Report BootFailure (Option α)) (children : List Node) : Prop :=
  ∀ child ∈ children, (visit child).result = .ok none

theorem passes_nil : Passes visit [] := fun _ member => nomatch member

def firstAnswer (visit : Node → Report BootFailure (Option α)) :
    List Node → Option BootFailure → Except BootFailure (Option α)
  | [], none => .ok none
  | [], some failure => .error failure
  | child :: others, cut =>
      match (visit child).result with
      | .error failure => .error failure
      | .ok (some answer) => .ok (some answer)
      | .ok none => firstAnswer visit others cut

theorem firstAnswer_passed (passes : Passes visit before) (others : List Node)
    (cut : Option BootFailure) :
    firstAnswer visit (before ++ others) cut = firstAnswer visit others cut := by
  induction before with
  | nil => rfl
  | cons first rest ih =>
      rw [List.cons_append, firstAnswer, passes first List.mem_cons_self]
      exact ih fun child member => passes child (List.mem_cons_of_mem first member)

theorem firstAnswer_decided (decides : (visit child).result ≠ .ok none) (others : List Node)
    (cut : Option BootFailure) :
    firstAnswer visit (child :: others) cut = (visit child).result := by
  rw [firstAnswer]
  cases told : (visit child).result with
  | error failure => rfl
  | ok answer =>
      cases answer with
      | none => exact absurd told decides
      | some answer => rfl

theorem passes_or_decides (visit : Node → Report BootFailure (Option α))
    (children : List Node) :
    Passes visit children ∨ ∃ before child behind, children = before ++ child :: behind ∧
      Passes visit before ∧ (visit child).result ≠ .ok none := by
  induction children with
  | nil => exact .inl passes_nil
  | cons first rest ih =>
      by_cases passed : (visit first).result = .ok none
      · have front : ∀ {others : List Node}, Passes visit others → Passes visit (first :: others) :=
          fun passes => List.forall_mem_cons.mpr ⟨passed, passes⟩
        obtain passes | ⟨before, child, behind, rfl, passes, decides⟩ := ih
        · exact .inl (front passes)
        · exact .inr ⟨first :: before, child, behind, rfl, front passes, decides⟩
      · exact .inr ⟨[], first, rest, rfl, passes_nil, passed⟩

theorem Drains.search {upcoming : tree.Upcoming offset}
    (drains : tree.Drains upcoming.node? found cut) :
    (tree.searchFrom visit offset upcoming).result = firstAnswer visit found cut := by
  fun_induction searchFrom tree visit offset upcoming generalizing found cut with
  | case1 offset failure =>
      cases drains
      rfl
  | case2 offset =>
      cases drains
      rfl
  | case3 offset here ih =>
      cases drains with
      | node rest =>
          have later := ih (tree.nextSibling here.node).result rest
          simp only [Report.result_bind, Report.result_attempt, Except.bind, firstAnswer]
          cases told : (visit here.node).result with
          | error failure => rfl
          | ok answer =>
              cases answer with
              | none => exact later
              | some answer => rfl

theorem Drains.searchChildren (drains : tree.Drains (tree.firstChild? node) found cut) :
    (tree.searchChildren node visit).result = firstAnswer visit found cut := by
  simp only [DeviceTree.searchChildren, Report.result_bind, Report.result_attempt, Except.bind]
  exact Drains.search drains

theorem searched_row {name : Window} {body : Nat}
    (opened : tree.Reads node.offset (.beginNode name) body)
    (visit : Node → Report BootFailure (Option α)) :
    ∃ found cut, (tree.searchChildren node visit).result = firstAnswer visit found cut ∧
      (∀ before child, tree.Encloses node before (some child) ↔ before ++ [child] <+: found) ∧
      (∀ children, tree.Encloses node children none ↔ children = found ∧ cut = none) ∧
      ∀ failure, cut = some failure → Structural failure := by
  obtain ⟨found, cut, _, drains⟩ := tree.children_drains Unit node
  exact ⟨found, cut, drains.searchChildren,
    fun before child => drains.encloses_iff opened before (some child),
    fun children => drains.encloses_iff opened children none,
    drains.structural (firstChild?_tells opened)⟩

theorem Encloses.opened {further : Option Node} (encloses : tree.Encloses node children further) :
    ∃ name body, tree.Reads node.offset (.beginNode name) body := by
  obtain ⟨name, body, _, _, opened, _⟩ := encloses
  exact ⟨name, body, opened⟩

theorem Encloses.child_opened (encloses : tree.Encloses node before (some child)) :
    ∃ name body, tree.Reads child.offset (.beginNode name) body := by
  obtain ⟨_, _, _, _, _, _, _, follows⟩ := encloses
  exact follows.opened

/-- A child that is not passed, behind children that all are. -/
structure Decides (tree : DeviceTree) (node : Node) (visit : Node → Report BootFailure (Option α))
    (before : List Node) (child : Node) : Prop where
  encloses : tree.Encloses node before (some child)
  passes : Passes visit before
  decides : (visit child).result ≠ .ok none

theorem Decides.search (decided : tree.Decides node visit before child) :
    (tree.searchChildren node visit).result = (visit child).result := by
  obtain ⟨name, body, opened⟩ := decided.encloses.opened
  obtain ⟨found, cut, searched, opens, _⟩ := searched_row opened visit
  obtain ⟨behind, same⟩ := (opens before child).mp decided.encloses
  rw [searched, ← same, List.append_assoc, firstAnswer_passed decided.passes]
  exact firstAnswer_decided decided.decides behind cut

theorem search_ended (encloses : tree.Encloses node children none)
    (passes : Passes visit children) : (tree.searchChildren node visit).result = .ok none := by
  obtain ⟨name, body, opened⟩ := encloses.opened
  obtain ⟨found, cut, searched, _, ends, _⟩ := searched_row opened visit
  obtain ⟨rfl, rfl⟩ := (ends children).mp encloses
  rw [searched, ← List.append_nil children, firstAnswer_passed passes]
  rfl

/-- A search is decided by a child, ends with the row or meets a fault in it. -/
theorem search_cases {name : Window} {body : Nat}
    (opened : tree.Reads node.offset (.beginNode name) body)
    (visit : Node → Report BootFailure (Option α)) :
    (∃ before child, tree.Decides node visit before child) ∨
      (∃ children, tree.Encloses node children none ∧ Passes visit children) ∨
      ∃ failure, Structural failure ∧
        (tree.searchChildren node visit).result = .error failure := by
  obtain ⟨found, cut, searched, opens, ends, structural⟩ := searched_row opened visit
  obtain passes | ⟨before, child, behind, rfl, passes, decides⟩ := passes_or_decides visit found
  · right
    cases cut with
    | none => exact .inl ⟨found, (ends found).mpr ⟨rfl, rfl⟩, passes⟩
    | some failure =>
        refine .inr ⟨failure, structural failure rfl, ?_⟩
        rw [searched, ← List.append_nil found, firstAnswer_passed passes]
        rfl
  · have encloses : tree.Encloses node before (some child) := by
      refine (opens before child).mpr ⟨behind, ?_⟩
      rw [List.append_assoc]
      rfl
    exact .inl ⟨before, child, encloses, passes, decides⟩

theorem search_failsOnly {name : Window} {body : Nat}
    (opened : tree.Reads node.offset (.beginNode name) body)
    (visits : ∀ child, (visit child).FailsOnly Structural) :
    (tree.searchChildren node visit).FailsOnly Structural := by
  intro failure failed
  obtain ⟨before, child, decided⟩ | ⟨children, encloses, passes⟩ | ⟨same, structural, told⟩ :=
    search_cases opened visit
  · rw [decided.search] at failed
    exact visits child failure failed
  · rw [search_ended encloses passes] at failed
    cases failed
  · rw [told] at failed
    cases failed
    exact structural

theorem subnode_failsOnly {title : Window} {body : Nat}
    (opened : tree.Reads node.offset (.beginNode title) body) (name : String) :
    (tree.subnode node name).FailsOnly Structural :=
  search_failsOnly opened fun child =>
    Report.failsOnly_bind (tree.name_failsOnly child) fun _ _ => Report.failsOnly_pure _

theorem Decides.same {other : List Node} {also : Node}
    (decided : tree.Decides node visit before child)
    (again : tree.Decides node visit other also)
    (front : before ++ [child] <+: other ++ [also]) : before = other ∧ child = also := by
  obtain equal | within := List.prefix_concat_iff.mp front
  · simpa using equal
  · have member : child ∈ other := within.subset (by simp)
    exact absurd (again.passes child member) decided.decides

theorem Decides.unique {other : List Node} {also : Node}
    (decided : tree.Decides node visit before child)
    (again : tree.Decides node visit other also) : before = other ∧ child = also := by
  obtain ⟨name, body, opened⟩ := decided.encloses.opened
  obtain ⟨found, _, _, opens, _⟩ := searched_row opened visit
  have first := (opens before child).mp decided.encloses
  have second := (opens other also).mp again.encloses
  obtain front | front := List.prefix_or_prefix_of_prefix first second
  · exact decided.same again front
  · obtain ⟨equal, same⟩ := again.same decided front
    exact ⟨equal.symm, same.symm⟩

end DeviceTree

end PartitionBoot
