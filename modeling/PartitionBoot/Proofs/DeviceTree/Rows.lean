import PartitionBoot.Proofs.DeviceTree.Walks

/-!
Nodes and rows of siblings in a flattened tree. What a reader finds behind a node or behind its
properties is the next node of the row that stands there, or the end of the row.
-/

namespace PartitionBoot

namespace DeviceTree

/-- A node stands in a structure block: its opening, what is below it and a closing token. -/
structure Stands (tree : DeviceTree) (names : List UInt8) (placed : Placed) (gap : Nat) :
    Prop where
  shown : tree.tokens.Shows placed.start
    (placed.opening.bytes ++ (placed.children.bytes ++ closing gap))
  aligned : placed.start % 4 = 0
  validOpening : placed.opening.Valid names
  validChildren : placed.children.Valid names

structure RowStands (tree : DeviceTree) (names : List UInt8) (forest : Forest) (start gap : Nat) :
    Prop where
  shown : tree.tokens.Shows start (forest.bytes ++ closing gap)
  aligned : start % 4 = 0
  valid : forest.Valid names

variable {tree : DeviceTree} {names : List UInt8} {placed : Placed} {node : Node}
  {forest : Forest} {start gap offset : Nat}

theorem Stands.below (stands : tree.Stands names placed gap) :
    tree.RowStands names placed.children (placed.start + placed.opening.bytes.length) gap where
  shown := stands.shown.back
  aligned := by
    have aligned := stands.aligned
    have length := Opening.aligned_length stands.validOpening
    omega
  valid := stands.validChildren

theorem stands_first {opening : Opening} {children rest : Forest} {inner : Nat}
    (shown : tree.tokens.Shows start (Forest.node opening children inner rest).bytes)
    (aligned : start % 4 = 0) (valid : (Forest.node opening children inner rest).Valid names) :
    tree.Stands names ⟨start, opening, children⟩ inner where
  shown := by
    rw [Forest.bytes, ← List.append_assoc children.bytes, ← List.append_assoc] at shown
    exact shown.front
  aligned := aligned
  validOpening := valid.1
  validChildren := valid.2.1

theorem RowStands.first {opening : Opening} {children rest : Forest} {inner : Nat}
    (stands : tree.RowStands names (.node opening children inner rest) start gap) :
    tree.Stands names ⟨start, opening, children⟩ inner :=
  stands_first stands.shown.front stands.aligned stands.valid

theorem RowStands.rest {opening : Opening} {children rest : Forest} {inner : Nat}
    (stands : tree.RowStands names (.node opening children inner rest) start gap) :
    tree.RowStands names rest
      (start + opening.bytes.length + children.bytes.length + (closing inner).length) gap where
  shown := by
    have shown := stands.shown
    rw [Forest.bytes, List.append_assoc, List.append_assoc, List.append_assoc] at shown
    exact shown.back.back.back
  aligned := by
    have aligned := stands.aligned
    have first := Opening.aligned_length stands.valid.1
    have second := Forest.aligned_length stands.valid.2.1
    rw [length_closing]
    omega
  valid := stands.valid.2.2

theorem nodes_stand
    (shown : tree.tokens.Shows start forest.bytes) (aligned : start % 4 = 0)
    (valid : forest.Valid names) :
    ∀ placed ∈ forest.nodes start, ∃ gap, tree.Stands names placed gap := by
  induction forest generalizing start with
  | empty =>
      intro placed member
      simp [Forest.nodes] at member
  | node opening children gap rest ihChildren ihRest =>
      have first := stands_first shown aligned valid
      have below := first.below
      have inRest := shown.back.back.back
      have inside := ihChildren below.shown.front below.aligned below.valid
      have childrenLength := Forest.aligned_length valid.2.1
      have belowAligned : (start + opening.bytes.length) % 4 = 0 := below.aligned
      have after := ihRest inRest (by rw [length_closing]; omega) valid.2.2
      intro placed member
      simp only [Forest.nodes, List.mem_cons, List.mem_append] at member
      rcases member with rfl | member | member
      · exact ⟨gap, first⟩
      · exact inside placed member
      · exact after placed member

theorem Stands.reads (stands : tree.Stands names placed gap) (denotes : placed.Denotes node) :
    ∃ name, tree.Reads node.offset (.beginNode name)
      (placed.start + placed.opening.head.length) ∧ name.bytes = placed.opening.name := by
  obtain ⟨skipped, within, same⟩ := denotes
  rw [same]
  exact reads_opening stands.shown.front.front stands.aligned stands.validOpening within

theorem Stands.name (stands : tree.Stands names placed gap) (denotes : placed.Denotes node) :
    ∃ name, (tree.name node).result = .ok name ∧ name.bytes = placed.opening.name := by
  obtain ⟨name, ⟨located, found, same, _⟩, held⟩ := stands.reads denotes
  refine ⟨name, ?_, held⟩
  simp only [DeviceTree.name, Report.result_bind, found, Except.bind, same, Report.result_pure]

theorem Stands.properties (reader : tree.Reader names) (stands : tree.Stands names placed gap) :
    tree.Properties (placed.start + placed.opening.head.length)
      (placed.start + placed.opening.bytes.length) := by
  have aligned := stands.aligned
  have head := Opening.aligned_head stands.validOpening
  rw [Opening.bytes, List.length_append, ← Nat.add_assoc]
  exact flat_properties reader stands.shown.front.back (by omega) stands.validOpening.2.2

theorem Stands.subtree (reader : tree.Reader names) (stands : tree.Stands names placed gap)
    (denotes : placed.Denotes node) :
    tree.Subtree node.offset (placed.start + placed.opening.bytes.length +
      placed.children.bytes.length + (closing gap).length) := by
  obtain ⟨name, opened, _⟩ := stands.reads denotes
  have below := stands.below
  have inside := flat_forest reader below.shown.front below.aligned below.valid
  exact ⟨name, _, _, opened, (stands.properties reader).balanced inside,
    reads_closing below.shown.back (Nat.zero_le gap)⟩

def Announces (upcoming : tree.Upcoming offset) (row : List Placed) : Prop :=
  match row with
  | [] => upcoming = .ok none
  | first :: _ => ∃ found, upcoming = .ok (some found) ∧ found.node = first.tagged

theorem announces_iff {upcoming : tree.Upcoming offset} {row : List Placed} :
    Announces upcoming row ↔ upcoming.node? = .ok (row.head?.map Placed.tagged) := by
  rw [node?_ok_iff]
  cases row with
  | nil => simp [Announces]
  | cons first rest =>
      constructor
      · rintro ⟨found, rfl, same⟩
        exact ⟨some found, rfl, congrArg some same⟩
      · rintro ⟨answer, rfl, same⟩
        obtain ⟨found, rfl, same⟩ := Option.map_eq_some_iff.mp same
        exact ⟨found, rfl, Option.some.inj same⟩

theorem RowStands.follows (stands : tree.RowStands names forest start gap) :
    tree.Follows start ((forest.row start).head?.map Placed.tagged) := by
  cases forest with
  | empty => exact .closing (reads_closing stands.shown (Nat.zero_le gap))
  | node opening children inner rest =>
      have shown := stands.first.shown.front.front
      have stop : tree.skipNops start = start + 4 * opening.gap :=
        skipNops_nops (shows_tag shown) (by decide) (Nat.zero_le opening.gap)
      obtain ⟨name, read, _⟩ :=
        reads_opening shown stands.aligned stands.valid.1 (Nat.zero_le opening.gap)
      have opens := Follows.opening read
      rw [Nat.mul_zero, Nat.add_zero, stop] at opens
      exact opens

theorem Stands.firstChild (reader : tree.Reader names) (stands : tree.Stands names placed gap)
    (denotes : placed.Denotes node) :
    Announces (tree.firstChild node).result placed.below := by
  obtain ⟨name, opened, _⟩ := stands.reads denotes
  exact announces_iff.mpr ((firstChild_ok_iff opened).mpr
    ⟨_, stands.properties reader, stands.below.follows⟩)

theorem RowStands.nextSibling (reader : tree.Reader names) {opening : Opening}
    {children rest : Forest} {inner : Nat}
    (stands : tree.RowStands names (.node opening children inner rest) start gap)
    (denotes : Placed.Denotes ⟨start, opening, children⟩ node) :
    Announces (tree.nextSibling node).result (rest.row
      (start + opening.bytes.length + children.bytes.length + (closing inner).length)) := by
  obtain ⟨name, opened, _⟩ := stands.first.reads denotes
  exact announces_iff.mpr ((nextSibling_ok_iff opened).mpr
    ⟨_, stands.first.subtree reader denotes, stands.rest.follows⟩)

end DeviceTree

end PartitionBoot
