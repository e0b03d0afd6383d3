import PartitionBoot.Proofs.DeviceTree.Subtrees

/-!
The properties of a node in arbitrary bytes. A scan over them reads names and values up to the first
token of another kind or the first fault, and a property is looked up in what the scan read.
-/

namespace PartitionBoot

namespace DeviceTree

variable {tree : DeviceTree} {start offset body : Nat} {node : Node} {name : String}
  {width : Nat}

/-- What a scan over properties reads: their names and values, and the fault that ends it early. -/
structure PropertyList where
  entries : List (List UInt8 × List UInt8)
  fault : Option BootFailure

/-- A scan from an offset on reads this list. -/
inductive Scans (tree : DeviceTree) : Nat → PropertyList → Prop where
  | ended {offset next : Nat} {token : Token} (read : tree.Reads offset token next)
      (other : ∀ nameOffset value, token ≠ .property nameOffset value) :
      Scans tree offset ⟨[], none⟩
  | unread {offset : Nat} {failure : BootFailure}
      (failed : (tree.token offset).result = .error failure) :
      Scans tree offset ⟨[], some failure⟩
  | unnamed {offset next : Nat} {nameOffset : UInt32} {value : Window} {failure : BootFailure}
      (read : tree.Reads offset (.property nameOffset value) next)
      (failed : (tree.propertyName nameOffset).result = .error failure) :
      Scans tree offset ⟨[], some failure⟩
  | entry {offset next : Nat} {nameOffset : UInt32} {value title : Window} {list : PropertyList}
      (read : tree.Reads offset (.property nameOffset value) next)
      (named : (tree.propertyName nameOffset).result = .ok title)
      (rest : Scans tree next list) :
      Scans tree offset ⟨(title.bytes, value.bytes) :: list.entries, list.fault⟩

def Holds (tree : DeviceTree) (node : Node) (list : PropertyList) : Prop :=
  ∃ title body, tree.Reads node.offset (.beginNode title) body ∧ tree.Scans body list

namespace PropertyList

variable {list : PropertyList}

def first? (list : PropertyList) (name : String) : Option (List UInt8) :=
  (list.entries.find? fun entry => entry.1 = nameBytes name).map Prod.snd

/-- A property that was not read is absent only if the scan came to its end. -/
def lookup (list : PropertyList) (name : String) : Except BootFailure (Option (List UInt8)) :=
  match list.first? name, list.fault with
  | some value, _ => .ok (some value)
  | none, some failure => .error failure
  | none, none => .ok none

/-- The first property with a name has this width and holds this big-endian number. -/
def Field (list : PropertyList) (name : String) (width number : Nat) : Prop :=
  ∃ value, list.lookup name = .ok (some value) ∧ value.length = width ∧
    ofBigEndian value = number

/-- The scan meets a fault before it meets the property, or the property has another width. -/
inductive Broken (list : PropertyList) (name : String) (width : Nat) : BootFailure → Prop where
  | unread {failure : BootFailure} (failed : list.lookup name = .error failure) :
      Broken list name width failure
  | width {value : List UInt8} (found : list.lookup name = .ok (some value))
      (other : value.length ≠ width) :
      Broken list name width (.manifestMalformed (.propertyWidth name width value.length))

def sized (list : PropertyList) (name : String) (width : Nat) : Except BootFailure (Option Nat) :=
  match list.lookup name with
  | .error failure => .error failure
  | .ok none => .ok none
  | .ok (some value) =>
      if value.length = width then .ok (some (ofBigEndian value))
      else .error (.manifestMalformed (.propertyWidth name width value.length))

theorem sized_some_iff {number : Nat} :
    list.sized name width = .ok (some number) ↔ list.Field name width number := by
  unfold sized Field
  cases list.lookup name with
  | error failure => simp
  | ok found =>
      cases found with
      | none => simp
      | some value => by_cases wide : value.length = width <;> simp [wide]

theorem sized_none_iff : list.sized name width = .ok none ↔ list.lookup name = .ok none := by
  unfold sized
  cases list.lookup name with
  | error failure => simp
  | ok found =>
      cases found with
      | none => simp
      | some value => by_cases wide : value.length = width <;> simp [wide]

theorem sized_error_iff {failure : BootFailure} :
    list.sized name width = .error failure ↔ list.Broken name width failure := by
  constructor
  · intro failed
    unfold sized at failed
    split at failed
    · rename_i same found
      cases failed
      exact .unread found
    · cases failed
    · rename_i value found
      split at failed
      · cases failed
      · rename_i other
        cases failed
        exact .width found other
  · rintro (failed | ⟨found, other⟩)
    · simp [sized, failed]
    · simp [sized, found, other]

theorem Field.lt {number : Nat} (field : list.Field name width number) :
    number < Nat.pow 256 width := by
  obtain ⟨value, _, rfl, rfl⟩ := field
  have bound := ofLittleEndian_lt value.reverse
  rwa [List.length_reverse] at bound

end PropertyList

variable {list : PropertyList}

theorem exists_scan (tree : DeviceTree) (offset : Nat) : ∃ list, tree.Scans offset list := by
  induction left : tree.tokens.size - offset using Nat.strongRecOn generalizing offset with
  | ind left ih =>
      cases found : (tree.token offset).result with
      | error failure => exact ⟨_, .unread found⟩
      | ok located =>
          have read := reads_of_token found
          have inside := located.inside
          have advances := located.advances
          cases same : located.token with
          | property nameOffset value =>
              rw [same] at read
              cases named : (tree.propertyName nameOffset).result with
              | error failure => exact ⟨_, .unnamed read named⟩
              | ok title =>
                  obtain ⟨list, rest⟩ := ih _ (by omega) located.next rfl
                  exact ⟨_, .entry read named rest⟩
          | beginNode name => exact ⟨_, .ended read (by simp [same])⟩
          | endNode => exact ⟨_, .ended read (by simp [same])⟩
          | finish => exact ⟨_, .ended read (by simp [same])⟩

theorem exists_holds {title : Window} (opened : tree.Reads node.offset (.beginNode title) body) :
    ∃ list, tree.Holds node list := by
  obtain ⟨list, scans⟩ := tree.exists_scan body
  exact ⟨list, title, body, opened, scans⟩

theorem Scans.structural (scans : tree.Scans offset list) :
    ∀ failure, list.fault = some failure → Structural failure := by
  induction scans with
  | ended read other =>
      intro failure told
      cases told
  | unread failed =>
      intro failure told
      cases told
      exact tree.token_failsOnly _ _ failed
  | unnamed read failed =>
      intro failure told
      cases told
      exact tree.propertyName_failsOnly _ _ failed
  | entry read named rest ih => exact ih

theorem walk_fails {α β : Type} {visit : Visit tree start α β} {carried : β}
    {failure : BootFailure} (failed : (tree.token offset).result = .error failure)
    (reached : start ≤ offset) :
    (tree.walkFrom start visit carried offset reached).result = .error failure := by
  rw [walkFrom]
  simp only [Report.result_bind, failed, Except.bind]

theorem propertyVisit_ended {located : Located tree.tokens.size offset} (reached : start ≤ offset)
    (other : ∀ nameOffset value, located.token ≠ .property nameOffset value) :
    (tree.propertyVisit start name () offset reached located).result = .ok (.inl none) := by
  simp only [propertyVisit, Report.result_pure]

theorem propertyVisit_entry {located : Located tree.tokens.size offset} {nameOffset : UInt32}
    {value title : Window} (reached : start ≤ offset)
    (same : located.token = .property nameOffset value)
    (named : (tree.propertyName nameOffset).result = .ok title) :
    (tree.propertyVisit start name () offset reached located).result =
      .ok (if title.bytes = nameBytes name then .inl (some value) else .inr ()) := by
  simp only [propertyVisit, same, Report.result_bind, named, Except.bind, Report.result_pure]

theorem Scans.lookup (scans : tree.Scans offset list) (name : String) (reached : start ≤ offset) :
    (tree.walkFrom start (tree.propertyVisit start name) () offset reached).result.map
      (Option.map Window.bytes) = list.lookup name := by
  induction scans with
  | ended read other =>
      have stopped : (tree.walkFrom start (tree.propertyVisit start name) () _ reached).result =
          .ok none := by
        refine walk_stops read ?_ reached
        intro reached located same _
        exact propertyVisit_ended reached (same ▸ other)
      rw [stopped]
      rfl
  | unread failed =>
      rw [walk_fails failed reached]
      rfl
  | unnamed read failed =>
      obtain ⟨located, found, same, _⟩ := read
      rw [walkFrom]
      simp only [Report.result_bind, found, Except.bind, propertyVisit, same, failed]
      rfl
  | entry read named rest ih =>
      rename_i value title list
      have advances := read.advances
      by_cases hit : title.bytes = nameBytes name
      · have stopped : (tree.walkFrom start (tree.propertyVisit start name) () _ reached).result =
            .ok (some value) := by
          refine walk_stops read ?_ reached
          intro reached located same _
          rw [propertyVisit_entry reached same named, if_pos hit]
        rw [stopped]
        simp [PropertyList.lookup, PropertyList.first?, hit, Except.map]
      · rw [walk_goes () read ?_ reached (by omega)]
        · rw [ih]
          simp [PropertyList.lookup, PropertyList.first?, hit]
        · intro reached located same
          rw [propertyVisit_entry reached same named, if_neg hit]

/-! Properties of a node. -/

theorem Holds.structural (holds : tree.Holds node list) {failure : BootFailure}
    (failed : list.lookup name = .error failure) : Structural failure := by
  obtain ⟨title, body, _, scans⟩ := holds
  unfold PropertyList.lookup at failed
  split at failed
  · cases failed
  · rename_i faulty
    cases failed
    exact scans.structural _ faulty
  · cases failed

theorem Holds.broken_malformed (holds : tree.Holds node list) {failure : BootFailure}
    (broken : list.Broken name width failure) :
    ∃ fault, failure = .manifestMalformed fault := by
  cases broken with
  | unread failed => exact (holds.structural failed).malformedManifest
  | width found other => exact ⟨_, rfl⟩

theorem Holds.property (holds : tree.Holds node list) (name : String) :
    (tree.property node name).result.map (Option.map Window.bytes) = list.lookup name := by
  obtain ⟨title, body, opened, scans⟩ := holds
  obtain ⟨behind, entered⟩ := body_ok opened
  simp only [DeviceTree.property, Report.result_bind, entered, Except.bind]
  exact scans.lookup name (Nat.le_refl body)

theorem Holds.property_ok (holds : tree.Holds node list) {value : Option (List UInt8)}
    (looked : list.lookup name = .ok value) :
    ∃ found, (tree.property node name).result = .ok found ∧ found.map Window.bytes = value := by
  have told := holds.property name
  rw [looked] at told
  cases read : (tree.property node name).result with
  | error failure =>
      rw [read] at told
      cases told
  | ok found =>
      rw [read] at told
      cases told
      exact ⟨found, rfl, rfl⟩

theorem Holds.property_error (holds : tree.Holds node list) {failure : BootFailure}
    (failed : list.lookup name = .error failure) :
    (tree.property node name).result = .error failure := by
  have told := holds.property name
  rw [failed] at told
  cases read : (tree.property node name).result with
  | error same =>
      rw [read] at told
      cases told
      rfl
  | ok found =>
      rw [read] at told
      cases told

theorem Holds.sized (holds : tree.Holds node list) (name : String) (width : Nat) :
    (tree.sizedProperty node name width).result.map
      (Option.map fun value => ofBigEndian value.bytes) = list.sized name width := by
  have looked := holds.property name
  simp only [sizedProperty, Report.result_bind, PropertyList.sized, ← looked]
  cases (tree.property node name).result with
  | error failure => rfl
  | ok found =>
      cases found with
      | none => rfl
      | some value =>
          have length : value.bytes.length = value.size := by simp [Window.bytes]
          by_cases wide : value.size = width
          · simp [Except.bind, Except.map, length, wide]
          · simp [Except.bind, Except.map, length, wide]

theorem Holds.property32 (holds : tree.Holds node list) (name : String) :
    (tree.property32 node name).result = (list.sized name 4).map (Option.map UInt32.ofNat) := by
  rw [← holds.sized name 4]
  simp only [DeviceTree.property32, Report.result_bind, Report.result_pure]
  cases (tree.sizedProperty node name 4).result with
  | error failure => rfl
  | ok found => cases found <;> rfl

theorem Holds.property64 (holds : tree.Holds node list) (name : String) :
    (tree.property64 node name).result = (list.sized name 8).map (Option.map UInt64.ofNat) := by
  rw [← holds.sized name 8]
  simp only [DeviceTree.property64, Report.result_bind, Report.result_pure]
  cases (tree.sizedProperty node name 8).result with
  | error failure => rfl
  | ok found => cases found <;> rfl

end DeviceTree

end PartitionBoot
