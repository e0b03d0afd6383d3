import PartitionBoot.Proofs.DeviceTree.Subtrees

/-!
What a flattened tree looks like to a reader of tokens: properties are a run, a row of nodes is
balanced, and lengths stay multiples of four, by induction on what is flattened.
-/

namespace PartitionBoot

namespace DeviceTree

/-- A reader of a structure block whose sizes fit their fields, with this names block. -/
structure Reader (tree : DeviceTree) (names : List UInt8) : Prop where
  small : tree.tokens.size < UInt32.size
  named : tree.names.Shows 0 names

variable {tree : DeviceTree} {names : List UInt8} {start offset : Nat}

theorem FlatProperty.aligned_length {property : FlatProperty} (valid : property.Valid names) :
    property.bytes.length % 4 = 0 := by
  have pads := valid.2.2.2.2
  rw [FlatProperty.length_bytes]
  omega

theorem Opening.aligned_head {opening : Opening} (valid : opening.Valid names) :
    opening.head.length % 4 = 0 := by
  have pads := valid.2.1.2
  rw [Opening.length_head]
  omega

theorem aligned_properties {properties : List FlatProperty}
    (valid : ∀ property ∈ properties, property.Valid names) :
    (properties.flatMap FlatProperty.bytes).length % 4 = 0 := by
  induction properties with
  | nil => rfl
  | cons first rest ih =>
      have one := FlatProperty.aligned_length (valid first List.mem_cons_self)
      have others := ih fun property member => valid property (List.mem_cons_of_mem _ member)
      rw [List.flatMap_cons, List.length_append]
      omega

theorem Opening.aligned_length {opening : Opening} (valid : opening.Valid names) :
    opening.bytes.length % 4 = 0 := by
  have head := Opening.aligned_head valid
  have properties := aligned_properties valid.2.2
  rw [Opening.bytes, List.length_append]
  omega

theorem Forest.aligned_length {forest : Forest} (valid : forest.Valid names) :
    forest.bytes.length % 4 = 0 := by
  induction forest with
  | empty => rfl
  | node opening children gap rest ihChildren ihRest =>
      obtain ⟨first, below, behind⟩ := valid
      have lengths := Opening.aligned_length first
      have inside := ihChildren below
      have after := ihRest behind
      simp only [Forest.bytes, List.length_append, length_closing]
      omega

theorem flat_properties (reader : tree.Reader names) {properties : List FlatProperty}
    (shown : tree.tokens.Shows offset (properties.flatMap FlatProperty.bytes))
    (aligned : offset % 4 = 0) (valid : ∀ property ∈ properties, property.Valid names) :
    tree.Properties offset (offset + (properties.flatMap FlatProperty.bytes).length) := by
  induction properties generalizing offset with
  | nil => exact .none offset
  | cons first rest ih =>
      rw [List.flatMap_cons] at shown
      have validFirst := valid first List.mem_cons_self
      have length := FlatProperty.aligned_length validFirst
      obtain ⟨value, read, _⟩ := reads_property shown.front aligned validFirst reader.small
      rw [List.flatMap_cons, List.length_append, ← Nat.add_assoc]
      exact .property read (ih shown.back (by omega)
        fun property member => valid property (List.mem_cons_of_mem _ member))

theorem flat_forest (reader : tree.Reader names) {forest : Forest}
    (shown : tree.tokens.Shows offset forest.bytes) (aligned : offset % 4 = 0)
    (valid : forest.Valid names) : tree.Balanced offset (offset + forest.bytes.length) := by
  induction forest generalizing offset with
  | empty => exact .none offset
  | node opening children gap rest ihChildren ihRest =>
      obtain ⟨validOpening, validChildren, validRest⟩ := valid
      have head := Opening.aligned_head validOpening
      have openingLength := Opening.aligned_length validOpening
      have childrenLength := Forest.aligned_length validChildren
      have inChildren := shown.back
      have inClosing := inChildren.back
      have inRest := inClosing.back
      have closed : tree.Reads (offset + opening.bytes.length + children.bytes.length) .endNode
          (offset + opening.bytes.length + children.bytes.length + (closing gap).length) :=
        reads_closing inClosing.front (Nat.zero_le gap)
      obtain ⟨name, opened, _⟩ :=
        reads_opening shown.front.front aligned validOpening (Nat.zero_le opening.gap)
      have properties := flat_properties reader shown.front.back (by omega) validOpening.2.2
      rw [Nat.add_assoc, ← List.length_append] at properties
      have below := ihChildren inChildren.front (by omega) validChildren
      have behind := ihRest inRest (by rw [length_closing]; omega) validRest
      have whole := Balanced.node opened (properties.balanced below) closed behind
      simp only [Forest.bytes, List.length_append, ← Nat.add_assoc]
      exact whole

end DeviceTree

end PartitionBoot
