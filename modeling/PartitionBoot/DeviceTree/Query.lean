import PartitionBoot.DeviceTree.Token

/-!
Questions to a flattened device tree: the root, the first compatible node, the properties and the
children of a node. A node is known by the offset of its opening token.
-/

namespace PartitionBoot

namespace DeviceTree

/-- A node, by the offset at which its opening token was found. -/
structure Node where
  offset : Nat
deriving DecidableEq

def root (tree : DeviceTree) : Report BootFailure Node := do
  let offset := tree.skipNops 0
  match (← tree.token offset).token with
  | .beginNode _ => pure ⟨offset⟩
  | _ => Report.fail malformed

def name (tree : DeviceTree) (node : Node) : Report BootFailure Window := do
  match (← tree.token node.offset).token with
  | .beginNode name => pure name
  | _ => Report.fail malformed

def body (tree : DeviceTree) (node : Node) :
    Report BootFailure { start : Nat // node.offset < start } := do
  let located ← tree.token node.offset
  match located.token with
  | .beginNode _ => pure ⟨located.next, by have := located.advances; omega⟩
  | _ => Report.fail malformed

def propertyName (tree : DeviceTree) (offset : UInt32) : Report BootFailure Window := do
  let rest ← Report.require (tree.names.suffix? offset.toNat) outside
  let length ← Report.require (rest.indexOf? 0) outside
  pure { rest with size := length }

def propertyVisit (tree : DeviceTree) (start : Nat) (name : String) :
    Visit tree start (Option Window) Unit := fun _ _ _ located =>
  match located.token with
  | .property nameOffset value => do
      let found ← tree.propertyName nameOffset
      pure (if found.bytes = nameBytes name then .inl (some value) else .inr ())
  | _ => pure (.inl none)

def property (tree : DeviceTree) (node : Node) (name : String) :
    Report BootFailure (Option Window) := do
  let ⟨start, _⟩ ← tree.body node
  tree.walk start (tree.propertyVisit start name) ()

def listEntries (bytes : List UInt8) : List (List UInt8) :=
  bytes.foldr (fun byte entries =>
    if byte = 0 then [] :: entries
    else match entries with
      | [] => [[byte]]
      | entry :: rest => (byte :: entry) :: rest) [[]]

def compatibleVisit (tree : DeviceTree) (identifier : String) :
    Visit tree 0 (Option Node) Unit := fun _ offset _ located =>
  match located.token with
  | .beginNode _ => do
      match ← tree.property ⟨offset⟩ "compatible" with
      | some list =>
          let matched := (listEntries list.bytes).contains (nameBytes identifier)
          pure (if matched then .inl (some ⟨offset⟩) else .inr ())
      | none => pure (.inr ())
  | .finish => pure (.inl none)
  | .endNode | .property .. => pure (.inr ())

def findCompatible (tree : DeviceTree) (identifier : String) :
    Report BootFailure (Option Node) :=
  tree.walk 0 (tree.compatibleVisit identifier) ()

def sizedProperty (tree : DeviceTree) (node : Node) (name : String) (width : Nat) :
    Report BootFailure (Option Window) := do
  match ← tree.property node name with
  | none => pure none
  | some value =>
      if value.size = width then
        pure (some value)
      else
        Report.failNoting (.propertyWidth name value.size width)
          (.manifestMalformed (.propertyWidth name width value.size))

def property32 (tree : DeviceTree) (node : Node) (name : String) :
    Report BootFailure (Option UInt32) := do
  let value ← tree.sizedProperty node name 4
  pure (value.map fun field => UInt32.ofNat (ofBigEndian field.bytes))

def property64 (tree : DeviceTree) (node : Node) (name : String) :
    Report BootFailure (Option UInt64) := do
  let value ← tree.sizedProperty node name 8
  pure (value.map fun field => UInt64.ofNat (ofBigEndian field.bytes))

def required {α : Type} (name : String) (value : Option α) : Report BootFailure α :=
  match value with
  | some value => pure value
  | none => Report.failNoting (.propertyMissing name) (.manifestMissing (.missingProperty name))

def read32 (tree : DeviceTree) (node : Node) (name : String) : Report BootFailure UInt32 := do
  required name (← tree.property32 node name)

def read64 (tree : DeviceTree) (node : Node) (name : String) : Report BootFailure UInt64 := do
  required name (← tree.property64 node name)

def readBytes (tree : DeviceTree) (node : Node) (name : String) : Report BootFailure Window := do
  required name (← tree.property node name)

def propertiesVisit (tree : DeviceTree) (start : Nat) :
    Visit tree start { stop : Nat // start ≤ stop } Unit := fun _ offset reached located =>
  match located.token with
  | .property .. => pure (.inr ())
  | _ => pure (.inl ⟨offset, reached⟩)

def skipProperties (tree : DeviceTree) (start : Nat) :
    Report BootFailure { stop : Nat // start ≤ stop } :=
  tree.walk start (tree.propertiesVisit start) ()

/-- Stops behind the token that closes the last open node. The carried value is the number of
nodes open. -/
def closingVisit (tree : DeviceTree) (start : Nat) :
    Visit tree start { stop : Nat // start < stop } Nat := fun depth _ reached located =>
  match located.token, depth with
  | .beginNode _, depth => pure (.inr (depth + 1))
  | .endNode, 0 => Report.fail malformed
  | .endNode, 1 => pure (.inl ⟨located.next, by have := located.advances; omega⟩)
  | .endNode, depth + 1 => pure (.inr depth)
  | .property .., depth => pure (.inr depth)
  | .finish, _ => Report.fail malformed

def skipNode (tree : DeviceTree) (start : Nat) :
    Report BootFailure { stop : Nat // start < stop } :=
  tree.walk start (tree.closingVisit start) 0

/-- A node at or after an offset, with the bounds that let a walk over siblings end. -/
structure NodeFrom (limit offset : Nat) where
  node : Node
  after : offset ≤ node.offset
  inside : node.offset + 4 ≤ limit

def nodeAt (tree : DeviceTree) {offset : Nat} (start : Nat) (behind : offset ≤ start) :
    Report BootFailure (Option (NodeFrom tree.tokens.size offset)) := do
  let found := tree.skipNops start
  let located ← tree.token found
  match located.token with
  | .beginNode _ =>
      pure (some ⟨⟨found⟩, Nat.le_trans behind (tree.le_skipNops start), located.inside⟩)
  | .endNode => pure none
  | _ => Report.fail malformed

abbrev Upcoming (tree : DeviceTree) (offset : Nat) : Type :=
  Except BootFailure (Option (NodeFrom tree.tokens.size offset))

def firstChild (tree : DeviceTree) (node : Node) :
    Report BootFailure (Option (NodeFrom tree.tokens.size (node.offset + 1))) := do
  let ⟨start, behind⟩ ← tree.body node
  let ⟨stop, reached⟩ ← tree.skipProperties start
  tree.nodeAt stop (Nat.le_trans behind reached)

def nextSibling (tree : DeviceTree) (node : Node) :
    Report BootFailure (Option (NodeFrom tree.tokens.size (node.offset + 1))) := do
  let ⟨stop, behind⟩ ← tree.skipNode node.offset
  tree.nodeAt stop behind

/-- Visits a row of siblings in document order until a visit gives a result. The sibling after a
node is looked up before the node is visited, and what that finds counts only afterwards. -/
def searchFrom {α : Type} (tree : DeviceTree) (visit : Node → Report BootFailure (Option α))
    (offset : Nat) (upcoming : tree.Upcoming offset) : Report BootFailure (Option α) :=
  match upcoming with
  | .error failure => Report.fail failure
  | .ok none => pure none
  | .ok (some found) => do
      let following ← (tree.nextSibling found.node).attempt
      match ← visit found.node with
      | some result => pure (some result)
      | none => tree.searchFrom visit (found.node.offset + 1) following
termination_by tree.tokens.size - offset
decreasing_by
  have after := found.after
  have inside := found.inside
  omega

def searchChildren {α : Type} (tree : DeviceTree) (node : Node)
    (visit : Node → Report BootFailure (Option α)) : Report BootFailure (Option α) := do
  let first ← (tree.firstChild node).attempt
  tree.searchFrom visit (node.offset + 1) first

def drainFrom {ε : Type} (tree : DeviceTree) (offset : Nat) (upcoming : tree.Upcoming offset) :
    Report ε (List Node × Option BootFailure) :=
  match upcoming with
  | .error failure => pure ([], some failure)
  | .ok none => pure ([], none)
  | .ok (some found) => do
      let following ← (tree.nextSibling found.node).attempt
      let (rest, cut) ← tree.drainFrom (found.node.offset + 1) following
      pure (found.node :: rest, cut)
termination_by tree.tokens.size - offset
decreasing_by
  have after := found.after
  have inside := found.inside
  omega

def children {ε : Type} (tree : DeviceTree) (node : Node) :
    Report ε (List Node × Option BootFailure) := do
  let first ← (tree.firstChild node).attempt
  tree.drainFrom (node.offset + 1) first

def baseName (name : List UInt8) : List UInt8 := name.takeWhile (· != 64)

def subnode (tree : DeviceTree) (node : Node) (name : String) :
    Report BootFailure (Option Node) :=
  let wanted := nameBytes name
  tree.searchChildren node fun child => do
    let found := (← tree.name child).bytes
    pure (if baseName found = wanted || found = wanted then some child else none)

end DeviceTree

end PartitionBoot
