import PartitionBoot.DeviceTree.Query

/-!
The outline of a node: the node and everything below it in document order, each with its depth,
up to the first thing that cannot be read.
-/

namespace PartitionBoot

namespace DeviceTree

structure OutlineEntry where
  depth : Nat
  node : Node
  name : Window

abbrev Outline := List OutlineEntry × Option BootFailure

def Outline.andThen {ε : Type} (outline : Outline) (next : Report ε Outline) : Report ε Outline :=
  match outline.2 with
  | some _ => pure outline
  | none => do
      let (entries, cut) ← next
      pure (outline.1 ++ entries, cut)

def outlineRow {ε : Type} (tree : DeviceTree) (depth offset : Nat)
    (upcoming : tree.Upcoming offset) : Report ε Outline :=
  match upcoming with
  | .error failure => pure ([], some failure)
  | .ok none => pure ([], none)
  | .ok (some found) => do
      let following ← (tree.nextSibling found.node).attempt
      match ← (tree.name found.node).attempt with
      | .error failure => pure ([], some failure)
      | .ok name => do
          let first ← (tree.firstChild found.node).attempt
          let (entries, cut) ← tree.outlineRow (depth + 1) (found.node.offset + 1) first
          let outline : Outline := (⟨depth, found.node, name⟩ :: entries, cut)
          outline.andThen (tree.outlineRow depth (found.node.offset + 1) following)
termination_by tree.tokens.size - offset
decreasing_by
  all_goals
    have after := found.after
    have inside := found.inside
    omega

def outline {ε : Type} (tree : DeviceTree) (node : Node) : Report ε Outline := do
  match ← (tree.name node).attempt with
  | .error failure => pure ([], some failure)
  | .ok name => do
      let first ← (tree.firstChild node).attempt
      let (entries, cut) ← tree.outlineRow 1 (node.offset + 1) first
      pure (⟨0, node, name⟩ :: entries, cut)

end DeviceTree

end PartitionBoot
