import Mathlib.Logic.Relation
import PartitionBoot.Proofs.DeviceTree.Tokens
import PartitionBoot.Proofs.Outcome

/-!
Reading tokens from arbitrary bytes. A token that is read is the one its tag stands for, behind the
NOP tags in front of it; a read that fails finds the bytes out of bounds or badly structured.
-/

namespace PartitionBoot

namespace DeviceTree

variable {tree : DeviceTree} {start offset next other : Nat} {token : Token} {α β : Type}

inductive Stamped (tree : DeviceTree) (place : Nat) : Token → Nat → Prop where
  | beginNode {rest : Window} {count : Nat}
      (tag : tree.tokens.be32? place = some Tag.beginNode)
      (suffix : tree.tokens.suffix? (place + 4) = some rest)
      (length : rest.indexOf? 0 = some count) :
      Stamped tree place (.beginNode { rest with size := count })
        (alignUp (place + 4 + count + 1) 4)
  | endNode (tag : tree.tokens.be32? place = some Tag.endNode) :
      Stamped tree place .endNode (place + 4)
  | property {value : Window} {length nameOffset : UInt32}
      (tag : tree.tokens.be32? place = some Tag.property)
      (size : tree.tokens.be32? (place + 4) = some length)
      (name : tree.tokens.be32? (place + 8) = some nameOffset)
      (cut : tree.tokens.slice? (place + 12) length.toNat = some value) :
      Stamped tree place (.property nameOffset value) (alignUp (place + 12 + length.toNat) 4)
  | finish (tag : tree.tokens.be32? place = some Tag.finish) :
      Stamped tree place .finish (place + 4)

theorem stamped_of_token {located : Located tree.tokens.size offset}
    (found : (tree.token offset).result = .ok located) :
    tree.Stamped (tree.skipNops offset) located.token located.next := by
  simp only [DeviceTree.token] at found
  split at found
  · cases found
  · rename_i tag tagged
    split at found
    · rename_i same
      subst same
      simp only [Report.bind_ok_iff, Report.require_ok_iff] at found
      obtain ⟨rest, suffix, count, length, told⟩ := found
      cases told
      exact .beginNode tagged suffix length
    · split at found
      · rename_i same
        subst same
        cases found
        exact .endNode tagged
      · split at found
        · rename_i same
          subst same
          simp only [Report.bind_ok_iff, Report.require_ok_iff] at found
          obtain ⟨length, size, nameOffset, name, value, cut, told⟩ := found
          cases told
          exact .property tagged size name cut
        · split at found
          · rename_i same
            subst same
            cases found
            exact .finish tagged
          · cases found

theorem reads_iff_stamped :
    tree.Reads offset token next ↔ tree.Stamped (tree.skipNops offset) token next := by
  constructor
  · rintro ⟨located, found, rfl, rfl⟩
    exact stamped_of_token found
  · intro stamped
    cases stamped with
    | beginNode tag suffix length => exact token_beginNode rfl tag suffix length
    | endNode tag => exact token_simple rfl tag (.inl ⟨rfl, rfl⟩)
    | property tag size name cut => exact token_property rfl tag size name cut
    | finish tag => exact token_simple rfl tag (.inr ⟨rfl, rfl⟩)

theorem skipNops_skipNops (tree : DeviceTree) (offset : Nat) :
    tree.skipNops (tree.skipNops offset) = tree.skipNops offset := by
  fun_induction skipNops tree offset with
  | case1 offset nop ih => exact ih
  | case2 offset other => rw [skipNops, dif_neg other]

theorem reads_skipNops : tree.Reads (tree.skipNops offset) token next ↔
    tree.Reads offset token next := by
  rw [reads_iff_stamped, skipNops_skipNops, ← reads_iff_stamped]

theorem Stamped.advances (stamped : tree.Stamped offset token next) : offset + 4 ≤ next := by
  cases stamped with
  | beginNode tag suffix length =>
      rename_i count
      have padded := le_alignUp (offset + 4 + count + 1) (show 0 < 4 by decide)
      omega
  | endNode tag => exact Nat.le_refl _
  | property tag size name cut =>
      rename_i length _
      have padded := le_alignUp (offset + 12 + length.toNat) (show 0 < 4 by decide)
      omega
  | finish tag => exact Nat.le_refl _

theorem Reads.advances (read : tree.Reads offset token next) : offset + 4 ≤ next := by
  obtain ⟨located, _, _, rfl⟩ := read
  exact located.advances

theorem Reads.unique {also : Token} (read : tree.Reads offset token next)
    (again : tree.Reads offset also other) : also = token ∧ other = next := by
  obtain ⟨located, found, rfl, rfl⟩ := read
  obtain ⟨same, once, rfl, rfl⟩ := again
  rw [found] at once
  cases once
  exact ⟨rfl, rfl⟩

theorem reads_of_token {located : Located tree.tokens.size offset}
    (found : (tree.token offset).result = .ok located) :
    tree.Reads offset located.token located.next :=
  ⟨located, found, rfl, rfl⟩

/-! Walks. -/

theorem walk_goes {visit : Visit tree start α β} {carried : β} (handed : β)
    (read : tree.Reads offset token next)
    (goes : ∀ (reached : start ≤ offset) (located : Located tree.tokens.size offset),
      located.token = token →
        (visit carried offset reached located).result = .ok (.inr handed))
    (reached : start ≤ offset) (further : start ≤ next) :
    (tree.walkFrom start visit carried offset reached).result =
      (tree.walkFrom start visit handed next further).result := by
  obtain ⟨located, found, same, rfl⟩ := read
  rw [walkFrom]
  simp only [Report.result_bind, found, Except.bind, goes reached located same]

def Precedes (tree : DeviceTree) (offset next : Nat) : Prop := ∃ token, tree.Reads offset token next

/-- A walk that gives a result got it at a token that it came to one token after another. -/
theorem walk_stopped {visit : Visit tree start α β} {carried : β} {result : α}
    {reached : start ≤ offset}
    (walked : (tree.walkFrom start visit carried offset reached).result = .ok result) :
    ∃ carried place reached, ∃ located : Located tree.tokens.size place,
      Relation.ReflTransGen tree.Precedes offset place ∧
        tree.Reads place located.token located.next ∧
        (visit carried place reached located).result = .ok (.inl result) := by
  fun_induction walkFrom tree start visit carried offset reached with
  | case1 carried offset reached ih =>
      obtain ⟨located, found, walked⟩ := Report.bind_ok_iff.mp walked
      obtain ⟨told, visited, walked⟩ := Report.bind_ok_iff.mp walked
      have read := reads_of_token found
      cases told with
      | inl result =>
          cases walked
          exact ⟨carried, offset, reached, located, .refl, read, visited⟩
      | inr handed =>
          obtain ⟨last, place, within, stopped, run, rest⟩ := ih located handed walked
          exact ⟨last, place, within, stopped, .head ⟨_, read⟩ run, rest⟩

theorem walk_stops {visit : Visit tree start α β} {carried : β} {result : α}
    (read : tree.Reads offset token next)
    (stops : ∀ (reached : start ≤ offset) (located : Located tree.tokens.size offset),
      located.token = token → located.next = next →
        (visit carried offset reached located).result = .ok (.inl result))
    (reached : start ≤ offset) :
    (tree.walkFrom start visit carried offset reached).result = .ok result := by
  obtain ⟨located, found, same, behind⟩ := read
  rw [walkFrom]
  simp only [Report.result_bind, found, Except.bind, stops reached located same behind,
    Report.result_pure]

/-! Failures. -/

/-- What is wrong with a tree that cannot be read on. -/
def Structural (failure : BootFailure) : Prop := failure = outside ∨ failure = malformed

theorem Structural.malformedManifest {failure : BootFailure} (structural : Structural failure) :
    ∃ fault, failure = .manifestMalformed fault := by
  obtain rfl | rfl := structural
  · exact ⟨_, rfl⟩
  · exact ⟨_, rfl⟩

def tokenTags : List UInt32 := [Tag.beginNode, Tag.endNode, Tag.property, Tag.finish]

/-- What is wrong where no token can be read: bytes out of bounds, or a tag that none begins with. -/
def faultAt (tree : DeviceTree) (place : Nat) : BootFailure :=
  match tree.tokens.be32? place with
  | none => outside
  | some tag => if tag ∈ tokenTags then outside else malformed

theorem token_fault (tree : DeviceTree) (offset : Nat) :
    (tree.token offset).FailsOnly (· = tree.faultAt (tree.skipNops offset)) := by
  simp only [token]
  split
  · rename_i missing
    exact Report.failsOnly_fail (by rw [faultAt, missing])
  · rename_i tag present
    have known (member : tag ∈ tokenTags) : outside = tree.faultAt (tree.skipNops offset) := by
      rw [faultAt, present]
      exact (if_pos member).symm
    split
    · rename_i opening
      have short := known (by simp [tokenTags, opening])
      exact Report.failsOnly_bind (Report.failsOnly_require _ short) fun _ _ =>
        Report.failsOnly_bind (Report.failsOnly_require _ short) fun _ _ => Report.failsOnly_pure _
    · split
      · exact Report.failsOnly_pure _
      · split
        · rename_i property
          have short := known (by simp [tokenTags, property])
          exact Report.failsOnly_bind (Report.failsOnly_require _ short) fun _ _ =>
            Report.failsOnly_bind (Report.failsOnly_require _ short) fun _ _ =>
              Report.failsOnly_bind (Report.failsOnly_require _ short) fun _ _ =>
                Report.failsOnly_pure _
        · split
          · exact Report.failsOnly_pure _
          · refine Report.failsOnly_failNoting _ ?_
            rw [faultAt, present]
            exact (if_neg (by simp [tokenTags, *])).symm

theorem structural_faultAt (tree : DeviceTree) (place : Nat) : Structural (tree.faultAt place) := by
  rw [faultAt]
  split
  · exact .inl rfl
  · split
    · exact .inl rfl
    · exact .inr rfl

theorem token_failsOnly (tree : DeviceTree) (offset : Nat) :
    (tree.token offset).FailsOnly Structural := by
  refine (tree.token_fault offset).mono ?_
  rintro _ rfl
  exact tree.structural_faultAt _

theorem walkFrom_failsOnly {visit : Visit tree start α β}
    (visits : ∀ carried offset reached located,
      (visit carried offset reached located).FailsOnly Structural)
    (carried : β) (offset : Nat) (reached : start ≤ offset) :
    (tree.walkFrom start visit carried offset reached).FailsOnly Structural := by
  fun_induction walkFrom tree start visit carried offset reached with
  | case1 carried offset reached ih =>
      refine Report.failsOnly_bind (tree.token_failsOnly offset) fun located _ => ?_
      refine Report.failsOnly_bind (visits _ _ _ _) fun handed _ => ?_
      cases handed with
      | inl result => exact Report.failsOnly_pure result
      | inr carried => exact ih located carried

theorem propertyName_failsOnly (tree : DeviceTree) (nameOffset : UInt32) :
    (tree.propertyName nameOffset).FailsOnly Structural :=
  Report.failsOnly_bind (Report.failsOnly_require _ (.inl rfl)) fun _ _ =>
    Report.failsOnly_bind (Report.failsOnly_require _ (.inl rfl)) fun _ _ =>
      Report.failsOnly_pure _

theorem body_failsOnly (tree : DeviceTree) (node : Node) :
    (tree.body node).FailsOnly Structural := by
  refine Report.failsOnly_bind (tree.token_failsOnly _) fun located _ => ?_
  split
  · exact Report.failsOnly_pure _
  · exact Report.failsOnly_fail (.inr rfl)

theorem name_failsOnly (tree : DeviceTree) (node : Node) :
    (tree.name node).FailsOnly Structural := by
  refine Report.failsOnly_bind (tree.token_failsOnly _) fun located _ => ?_
  split
  · exact Report.failsOnly_pure _
  · exact Report.failsOnly_fail (.inr rfl)

theorem body_ok {node : Node} {name : Window}
    (opened : tree.Reads node.offset (.beginNode name) next) :
    ∃ behind, (tree.body node).result = .ok ⟨next, behind⟩ := by
  obtain ⟨located, found, same, rfl⟩ := opened
  have advances := located.advances
  refine ⟨by omega, ?_⟩
  simp only [DeviceTree.body, Report.result_bind, found, Except.bind]
  split
  · rfl
  · rename_i unlike
    exact absurd same (unlike _)

theorem property_failsOnly (tree : DeviceTree) (node : Node) (name : String) :
    (tree.property node name).FailsOnly Structural := by
  refine Report.failsOnly_bind (tree.body_failsOnly node) fun located _ => ?_
  refine walkFrom_failsOnly ?_ _ _ _
  intro carried offset reached located
  simp only [propertyVisit]
  split
  · exact Report.failsOnly_bind (tree.propertyName_failsOnly _) fun _ _ =>
      Report.failsOnly_pure _
  · exact Report.failsOnly_pure _

/-- A compatible node is an opening token, known by the offset at which the walk over all tokens
looked for it. -/
theorem findCompatible_found {identifier : String} {node : Node}
    (found : (tree.findCompatible identifier).result = .ok (some node)) :
    Relation.ReflTransGen tree.Precedes 0 node.offset ∧
      ∃ title body, tree.Reads node.offset (.beginNode title) body := by
  obtain ⟨_, place, _, located, run, read, visited⟩ := walk_stopped found
  simp only [compatibleVisit] at visited
  split at visited
  · rename_i title opening
    obtain ⟨value, _, visited⟩ := Report.bind_ok_iff.mp visited
    cases value with
    | none => cases visited
    | some value =>
        dsimp only at visited
        split at visited
        · cases visited
          exact ⟨run, title, _, opening ▸ read⟩
        · cases visited
  · cases visited
  · cases visited
  · cases visited

theorem findCompatible_failsOnly (tree : DeviceTree) (identifier : String) :
    (tree.findCompatible identifier).FailsOnly Structural := by
  refine walkFrom_failsOnly ?_ _ _ _
  intro carried offset reached located
  simp only [compatibleVisit]
  split
  · refine Report.failsOnly_bind (tree.property_failsOnly _ _) fun list _ => ?_
    cases list with
    | none => exact Report.failsOnly_pure _
    | some list => exact Report.failsOnly_pure _
  · exact Report.failsOnly_pure _
  · exact Report.failsOnly_pure _
  · exact Report.failsOnly_pure _

end DeviceTree

end PartitionBoot
