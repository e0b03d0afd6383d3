import PartitionBoot.Proofs.DeviceTree.Rows
import PartitionBoot.Proofs.DeviceTree.PropertyLists
import PartitionBoot.Proofs.DeviceTree.Searches

/-!
Questions to a flattened tree and their answers: names, properties, children, named children and
compatible nodes.
-/

namespace PartitionBoot

namespace DeviceTree

variable {tree : DeviceTree} {names : List UInt8} {placed : Placed} {node : Node}
  {forest : Forest} {start gap offset : Nat} {token : Token} {next : Nat}

/-! Properties. -/

theorem flat_scans (reader : tree.Reader names) {properties : List FlatProperty}
    (shown : tree.tokens.Shows offset (properties.flatMap FlatProperty.bytes))
    (aligned : offset % 4 = 0) (valid : ∀ property ∈ properties, property.Valid names)
    (behind : tree.Reads (offset + (properties.flatMap FlatProperty.bytes).length) token next)
    (other : ∀ nameOffset value, token ≠ .property nameOffset value) :
    tree.Scans offset ⟨properties.map fun property => (property.name, property.value), none⟩ := by
  induction properties generalizing offset with
  | nil => exact .ended behind other
  | cons first rest ih =>
      rw [List.flatMap_cons] at shown behind
      rw [List.length_append, ← Nat.add_assoc] at behind
      have validFirst := valid first List.mem_cons_self
      have length := FlatProperty.aligned_length validFirst
      obtain ⟨value, read, held⟩ := reads_property shown.front aligned validFirst reader.small
      obtain ⟨name, named, sameName⟩ := propertyName_result reader.named validFirst
      have scanned := Scans.entry read named (ih shown.back (by omega)
        (fun property member => valid property (List.mem_cons_of_mem _ member)) behind)
      rw [held, sameName] at scanned
      exact scanned

theorem Stands.holds (reader : tree.Reader names) (stands : tree.Stands names placed gap)
    (denotes : placed.Denotes node) : tree.Holds node
      ⟨placed.opening.properties.map fun property => (property.name, property.value), none⟩ := by
  obtain ⟨title, opened, _⟩ := stands.reads denotes
  obtain ⟨token, next, read, other⟩ := stands.below.follows.reads
  have aligned := stands.aligned
  have head := Opening.aligned_head stands.validOpening
  rw [Opening.bytes, List.length_append, ← Nat.add_assoc] at read
  exact ⟨title, _, opened, flat_scans reader stands.shown.front.back (by omega)
    stands.validOpening.2.2 read other⟩

theorem flat_lookup (properties : List FlatProperty) (wanted : String) :
    PropertyList.lookup
        ⟨properties.map fun property => (property.name, property.value), none⟩ wanted =
      .ok ((properties.find? fun property => property.name = nameBytes wanted).map
        FlatProperty.value) := by
  have first : PropertyList.first?
      ⟨properties.map fun property => (property.name, property.value), none⟩ wanted =
        (properties.find? fun property => property.name = nameBytes wanted).map
          FlatProperty.value := by
    simp only [PropertyList.first?, List.find?_map, Option.map_map]
    rfl
  rw [PropertyList.lookup, first]
  cases properties.find? fun property => property.name = nameBytes wanted <;> rfl

theorem Stands.property (reader : tree.Reader names) (stands : tree.Stands names placed gap)
    (denotes : placed.Denotes node) (wanted : String) :
    ∃ found, (tree.property node wanted).result = .ok found ∧
      found.map Window.bytes = placed.opening.value? (nameBytes wanted) := by
  refine (stands.holds reader denotes).property_ok ?_
  rw [flat_lookup]
  rfl

/-! Children. -/

theorem RowStands.drains (reader : tree.Reader names)
    (stands : tree.RowStands names forest start gap) {upcoming : tree.Upcoming offset}
    (announced : Announces upcoming (forest.row start)) :
    tree.Drains upcoming.node? ((forest.row start).map Placed.tagged) none := by
  rw [announces_iff] at announced
  induction forest generalizing start offset with
  | empty =>
      rw [announced]
      exact .ended
  | node opening children inner rest _ ihRest =>
      rw [announced]
      exact .node (ihRest stands.rest (announces_iff.mp
        (stands.nextSibling reader (Placed.denotes_tagged _))))

theorem Stands.drains (reader : tree.Reader names) (stands : tree.Stands names placed gap)
    (denotes : placed.Denotes node) :
    tree.Drains (tree.firstChild? node) (placed.below.map Placed.tagged) none :=
  stands.below.drains reader (stands.firstChild reader denotes)

theorem Stands.children {ε : Type} (reader : tree.Reader names)
    (stands : tree.Stands names placed gap) (denotes : placed.Denotes node) :
    (tree.children node : Report ε _).result = .ok (placed.below.map Placed.tagged, none) := by
  obtain ⟨found, cut, drained, drains⟩ := tree.children_drains ε node
  obtain ⟨rfl, rfl⟩ := (stands.drains reader denotes).unique drains
  exact drained

/-! Children with a name. -/

theorem firstAnswer_row {visit : Node → Report BootFailure (Option Node)} {wanted : Placed → Bool}
    {row : List Placed} (visits : ∀ placed ∈ row, (visit placed.tagged).result =
      .ok (if wanted placed then some placed.tagged else none)) :
    firstAnswer visit (row.map Placed.tagged) none =
      .ok ((row.find? wanted).map Placed.tagged) := by
  induction row with
  | nil => rfl
  | cons first rest ih =>
      have visited := visits first List.mem_cons_self
      rw [List.map_cons, firstAnswer, visited]
      by_cases hit : wanted first = true
      · rw [if_pos hit, List.find?_cons_of_pos hit]
        rfl
      · rw [if_neg hit, List.find?_cons_of_neg hit]
        exact ih fun placed member => visits placed (List.mem_cons_of_mem first member)

theorem Stands.subnode (reader : tree.Reader names) (stands : tree.Stands names placed gap)
    (denotes : placed.Denotes node) (wanted : String) :
    (tree.subnode node wanted).result = .ok ((placed.below.find? fun child =>
      child.opening.called (nameBytes wanted)).map Placed.tagged) := by
  rw [DeviceTree.subnode, (stands.drains reader denotes).searchChildren]
  refine firstAnswer_row fun child member => ?_
  have below := stands.below
  obtain ⟨inner, childStands⟩ := nodes_stand below.shown.front below.aligned below.valid child
    (placed.children.row_subset_nodes _ member)
  obtain ⟨name, named, held⟩ := childStands.name child.denotes_tagged
  simp only [Report.result_bind, named, Except.bind, Report.result_pure, held, Opening.called,
    baseName, Bool.or_eq_true, decide_eq_true_eq]

/-! Compatible nodes. -/

theorem listEntries_eq_splitOn (bytes : List UInt8) : listEntries bytes = bytes.splitOn 0 := by
  induction bytes with
  | nil => rfl
  | cons first rest ih =>
      obtain ⟨entry, others, split⟩ :=
        List.exists_cons_of_ne_nil (List.splitOnP_ne_nil (· == 0) rest)
      rw [listEntries, List.foldr_cons, ← listEntries, ih]
      simp only [List.splitOn, List.splitOnP_cons_eq_if_modifyHead, split, beq_iff_eq,
        List.modifyHead_cons]

theorem Stands.compatibleVisit (reader : tree.Reader names)
    (stands : tree.Stands names placed gap) (identifier : String) (name : Window)
    (reached : 0 ≤ placed.start) (located : Located tree.tokens.size placed.start)
    (same : located.token = .beginNode name) :
    (tree.compatibleVisit identifier () placed.start reached located).result =
      .ok (if placed.opening.compatibleWith (nameBytes identifier) then
        .inl (some placed.gapped) else .inr ()) := by
  obtain ⟨found, read, held⟩ := stands.property reader placed.denotes_gapped "compatible"
  rw [Placed.gapped] at read
  simp only [Placed.gapped, DeviceTree.compatibleVisit, same, Report.result_bind, read, Except.bind,
    Opening.compatibleWith, ← held]
  cases found with
  | none => simp
  | some list => simp [listEntries_eq_splitOn]

theorem Stands.compatible_walk (reader : tree.Reader names)
    (stands : tree.Stands names placed gap) (identifier : String) (reached : 0 ≤ placed.start) :
    (tree.walkFrom 0 (tree.compatibleVisit identifier) () placed.start reached).result =
      if placed.opening.compatibleWith (nameBytes identifier) then .ok (some placed.gapped)
      else (tree.walkFrom 0 (tree.compatibleVisit identifier) ()
        (placed.start + placed.opening.bytes.length) (Nat.zero_le _)).result := by
  obtain ⟨name, read, _⟩ := stands.reads placed.denotes_gapped
  rw [Placed.gapped] at read
  have visited := stands.compatibleVisit reader identifier name
  have aligned := stands.aligned
  have head := Opening.aligned_head stands.validOpening
  by_cases hit : placed.opening.compatibleWith (nameBytes identifier) = true
  · rw [if_pos hit]
    refine walk_stops read ?_ reached
    intro reached located same _
    rw [visited reached located same, if_pos hit]
  · rw [if_neg hit, walk_goes () read ?_ reached (Nat.zero_le _)]
    · refine walk_run ?_ (stands.properties reader) _ _
      intro offset reached located nameOffset value same
      simp [DeviceTree.compatibleVisit, same]
    · intro reached located same
      rw [visited reached located same, if_neg hit]

/-- The search for a compatible node stops in a row of nodes or goes on behind it. -/
theorem compatible_walk_forest (reader : tree.Reader names) (identifier : String)
    (shown : tree.tokens.Shows offset forest.bytes) (aligned : offset % 4 = 0)
    (valid : forest.Valid names) (reached : 0 ≤ offset) :
    (tree.walkFrom 0 (tree.compatibleVisit identifier) () offset reached).result =
      ((forest.nodes offset).find? fun placed =>
        placed.opening.compatibleWith (nameBytes identifier)).elim
          (tree.walkFrom 0 (tree.compatibleVisit identifier) ()
            (offset + forest.bytes.length) (Nat.zero_le _)).result
          fun placed => .ok (some placed.gapped) := by
  induction forest generalizing offset with
  | empty => rfl
  | node opening children gap rest ihChildren ihRest =>
      have opened := (stands_first shown aligned valid).compatible_walk reader identifier reached
      obtain ⟨validOpening, validChildren, validRest⟩ := valid
      have openingLength := Opening.aligned_length validOpening
      have childrenLength := Forest.aligned_length validChildren
      have inChildren := shown.back
      have inClosing := inChildren.back
      have closed : tree.Reads (offset + opening.bytes.length + children.bytes.length) .endNode
          (offset + opening.bytes.length + children.bytes.length + (closing gap).length) :=
        reads_closing inClosing.front (Nat.zero_le gap)
      rw [opened, Forest.nodes, List.find?_cons]
      split
      · rename_i hit
        simp only [hit, Option.elim_some]
      · rename_i missed
        simp only [missed, List.find?_append]
        rw [ihChildren inChildren.front (by omega) validChildren (Nat.zero_le _)]
        cases (children.nodes (offset + opening.bytes.length)).find? fun placed =>
            placed.opening.compatibleWith (nameBytes identifier) with
        | some inside => rfl
        | none =>
            rw [Option.none_or, Option.elim_none, walk_goes () closed ?_ _ (Nat.zero_le _)]
            · rw [ihRest inClosing.back (by rw [length_closing]; omega) validRest (Nat.zero_le _)]
              simp only [Forest.bytes, List.length_append, Nat.add_assoc]
            · intro reached located same
              simp [DeviceTree.compatibleVisit, same]

theorem findCompatible_first (reader : tree.Reader names) (identifier : String)
    (shown : tree.tokens.Shows 0 (forest.bytes ++ (nops gap ++ tagBytes Tag.finish)))
    (valid : forest.Valid names) :
    (tree.findCompatible identifier).result = .ok (((forest.nodes 0).find? fun placed =>
      placed.opening.compatibleWith (nameBytes identifier)).map Placed.gapped) := by
  obtain ⟨next, ended⟩ := reads_finish shown.back
  rw [findCompatible, walk, compatible_walk_forest reader identifier shown.front rfl valid]
  cases (forest.nodes 0).find? fun placed =>
      placed.opening.compatibleWith (nameBytes identifier) with
  | some placed => rfl
  | none =>
      refine walk_stops ended ?_ _
      intro reached located same _
      simp [DeviceTree.compatibleVisit, same]

end DeviceTree

end PartitionBoot
