import Mathlib.Data.List.Chain
import PartitionBoot.Proofs.DeviceTree.Handles
import PartitionBoot.Proofs.Manifest

/-!
How far a tree in arbitrary bytes is read. Each token that is read takes four bytes or more of the
structure block, so every walk over tokens and every row of siblings comes to an end, and whatever
text is handed out lies in the block.
-/

namespace PartitionBoot

def Window.PartOf (part whole : Window) : Prop :=
  ∃ offset, whole.slice? offset part.size = some part

theorem Window.PartOf.front {part whole : Window} {count : Nat} (inside : part.PartOf whole)
    (short : count ≤ part.size) : { part with size := count }.PartOf whole := by
  obtain ⟨offset, cut⟩ := inside
  obtain ⟨room, same⟩ := slice?_eq_some_iff.mp cut
  refine ⟨offset, slice?_eq_some_iff.mpr ⟨Nat.le_trans (Nat.add_le_add_left short _) room, ?_⟩⟩
  rw [same]

namespace DeviceTree

variable {tree : DeviceTree} {start offset next place lower : Nat} {token : Token}
  {node child : Node} {found : List Node} {cut : Option BootFailure}
  {upcoming : Except BootFailure (Option Node)} {value : Window} {α β : Type}

/-! Tokens. -/

theorem Stamped.inside (stamped : tree.Stamped place token next) :
    place + 4 ≤ tree.tokens.size := by
  cases stamped with
  | beginNode tag suffix length => exact Window.be32?_bound tag
  | endNode tag => exact Window.be32?_bound tag
  | property tag size name cut => exact Window.be32?_bound tag
  | finish tag => exact Window.be32?_bound tag

theorem Reads.inside (read : tree.Reads offset token next) : offset + 4 ≤ tree.tokens.size := by
  obtain ⟨located, _⟩ := read
  exact located.inside

def Token.text? : Token → Option Window
  | .beginNode name => some name
  | .property _ value => some value
  | .endNode | .finish => none

theorem Stamped.text_part (stamped : tree.Stamped place token next)
    (carried : token.text? = some value) : value.PartOf tree.tokens := by
  cases stamped with
  | beginNode tag suffix length =>
      cases carried
      refine Window.PartOf.front ⟨place + 4, ?_⟩ (Nat.le_of_lt (Window.indexOf?_lt length))
      obtain ⟨_, rfl⟩ := Window.slice?_eq_some_iff.mp suffix
      exact suffix
  | endNode tag => cases carried
  | property tag size name cut =>
      cases carried
      obtain ⟨_, rfl⟩ := Window.slice?_eq_some_iff.mp cut
      exact ⟨_, cut⟩
  | finish tag => cases carried

theorem token_text_part {located : Located tree.tokens.size offset}
    (read : (tree.token offset).result = .ok located)
    (carried : located.token.text? = some value) : value.PartOf tree.tokens :=
  (stamped_of_token read).text_part carried

theorem name_part (named : (tree.name node).result = .ok value) : value.PartOf tree.tokens := by
  obtain ⟨located, read, named⟩ := Report.bind_ok_iff.mp named
  split at named
  · rename_i name same
    cases named
    exact token_text_part read (by rw [same]; rfl)
  · cases named

theorem property_part {name : String} (held : (tree.property node name).result = .ok (some value)) :
    value.PartOf tree.tokens := by
  obtain ⟨⟨start, _⟩, _, held⟩ := Report.bind_ok_iff.mp held
  obtain ⟨_, _, _, located, _, read, visited⟩ := walk_stopped held
  simp only [propertyVisit] at visited
  split at visited
  · rename_i nameOffset text same
    obtain ⟨title, _, visited⟩ := Report.bind_ok_iff.mp visited
    simp only [Report.result_pure, Except.ok.injEq] at visited
    split at visited
    · cases visited
      exact (reads_iff_stamped.mp read).text_part (by rw [same]; rfl)
    · cases visited
  · cases visited

theorem readBytes_part {name : String} (held : (tree.readBytes node name).result = .ok value) :
    value.PartOf tree.tokens := by
  obtain ⟨found, read, held⟩ := Report.bind_ok_iff.mp held
  rw [required_ok held] at read
  exact property_part read

/-! Walks, with what they decode on the way. -/

/-- A walk that keeps the offsets at which it decodes a token, or tries to. -/
def tracedFrom (tree : DeviceTree) (start : Nat) (visit : Visit tree start α β) (carried : β)
    (offset : Nat) (reached : start ≤ offset) : Except BootFailure α × List Nat :=
  match (tree.token offset).result with
  | .error failure => (.error failure, [offset])
  | .ok located =>
      match (visit carried offset reached located).result with
      | .error failure => (.error failure, [offset])
      | .ok (.inl result) => (.ok result, [offset])
      | .ok (.inr handed) =>
          let later := tree.tracedFrom start visit handed located.next
            (by have := located.advances; omega)
          (later.1, offset :: later.2)
termination_by tree.tokens.size - offset
decreasing_by
  have inside := located.inside
  have advances := located.advances
  omega

def traced (tree : DeviceTree) (start : Nat) (visit : Visit tree start α β) (carried : β) :
    Except BootFailure α × List Nat :=
  tree.tracedFrom start visit carried start (Nat.le_refl start)

theorem tracedFrom_result (visit : Visit tree start α β) (carried : β) (reached : start ≤ offset) :
    (tree.tracedFrom start visit carried offset reached).1 =
      (tree.walkFrom start visit carried offset reached).result := by
  fun_induction tracedFrom tree start visit carried offset reached with
  | case1 carried offset reached failure failed =>
      rw [walkFrom, Report.result_bind, failed]
      rfl
  | case2 carried offset reached located read failure failed =>
      rw [walkFrom, Report.result_bind, read]
      simp only [Except.bind, Report.result_bind, failed]
  | case3 carried offset reached located read result told =>
      rw [walkFrom, Report.result_bind, read]
      simp only [Except.bind, Report.result_bind, told, Report.result_pure]
  | case4 carried offset reached located read handed told later ih =>
      rw [walkFrom, Report.result_bind, read]
      simp only [Except.bind, Report.result_bind, told]
      exact ih

theorem tracedFrom_chain (visit : Visit tree start α β) (carried : β) (reached : start ≤ offset) :
    ∃ later, (tree.tracedFrom start visit carried offset reached).2 = offset :: later ∧
      (offset :: later).IsChain tree.Precedes := by
  fun_induction tracedFrom tree start visit carried offset reached with
  | case1 carried offset reached failure failed => exact ⟨[], rfl, .singleton _⟩
  | case2 carried offset reached located read failure failed => exact ⟨[], rfl, .singleton _⟩
  | case3 carried offset reached located read result told => exact ⟨[], rfl, .singleton _⟩
  | case4 carried offset reached located read handed told later ih =>
      obtain ⟨behind, same, chain⟩ := ih
      refine ⟨later.2, rfl, ?_⟩
      rw [same]
      exact .cons_cons ⟨_, reads_of_token read⟩ chain

theorem chain_length {later : List Nat} (chain : (offset :: later).IsChain tree.Precedes) :
    4 * later.length ≤ tree.tokens.size - offset := by
  induction later generalizing offset with
  | nil => simp
  | cons next rest ih =>
      obtain ⟨⟨token, read⟩, behind⟩ := List.isChain_cons_cons.mp chain
      have inside := read.inside
      have advances := read.advances
      have left := ih behind
      simp only [List.length_cons]
      omega

theorem tracedFrom_length (visit : Visit tree start α β) (carried : β) (reached : start ≤ offset) :
    (tree.tracedFrom start visit carried offset reached).2.length ≤ tree.tokens.size / 4 + 1 := by
  obtain ⟨later, same, chain⟩ := tracedFrom_chain visit carried reached
  have short := chain_length chain
  rw [same, List.length_cons]
  omega

def tracedProperty (tree : DeviceTree) (node : Node) (name : String) :
    Except BootFailure (Option Window) × List Nat :=
  match (tree.body node).result with
  | .error failure => (.error failure, [node.offset])
  | .ok ⟨start, _⟩ =>
      let later := tree.traced start (tree.propertyVisit start name) ()
      (later.1, node.offset :: later.2)

theorem tracedProperty_result (tree : DeviceTree) (node : Node) (name : String) :
    (tree.tracedProperty node name).1 = (tree.property node name).result := by
  rw [tracedProperty, DeviceTree.property, Report.result_bind]
  cases (tree.body node).result with
  | error failure => rfl
  | ok entered => exact tracedFrom_result _ _ _

theorem body_precedes {entered : { start : Nat // node.offset < start }}
    (told : (tree.body node).result = .ok entered) : tree.Precedes node.offset entered.val := by
  obtain ⟨located, read, told⟩ := Report.bind_ok_iff.mp told
  split at told
  · cases told
    exact ⟨_, reads_of_token read⟩
  · cases told

theorem tracedProperty_length (tree : DeviceTree) (node : Node) (name : String) :
    (tree.tracedProperty node name).2.length ≤ tree.tokens.size / 4 + 1 := by
  rw [tracedProperty]
  split
  · simp
  · rename_i start behind entered
    obtain ⟨later, same, chain⟩ :=
      tracedFrom_chain (tree.propertyVisit start name) () (Nat.le_refl start)
    have short := chain_length (.cons_cons (body_precedes entered) chain)
    rw [List.length_cons] at short
    simp only [traced, same, List.length_cons]
    omega

/-! Rows of siblings. -/

theorem Subtree.room (subtree : tree.Subtree offset next) : offset + 4 ≤ next := by
  obtain ⟨name, inside, last, opened, balanced, closed⟩ := subtree
  have into := opened.advances
  have below := balanced.le
  have behind := closed.advances
  omega

/-- A drained row of siblings has at most one node for four bytes. -/
theorem Drains.length {places : Nat → Prop} (drains : tree.Drains upcoming found cut)
    (tells : tree.Tells places upcoming) (low : ∀ start, places start → lower ≤ start) :
    4 * found.length ≤ tree.tokens.size - lower := by
  induction drains generalizing places lower with
  | failed failure => simp
  | ended => simp
  | node rest ih =>
      rename_i child others cut
      obtain ⟨start, here, follows⟩ := (tells.ok_iff (some child)).mp rfl
      obtain ⟨name, body, opened⟩ := follows.opened
      have above := low start here
      have behind : start ≤ child.offset := by
        cases follows with
        | opening read => exact tree.le_skipNops start
      have inside := opened.inside
      have left := ih (nextSibling?_tells opened) fun start subtree => subtree.room
      simp only [List.length_cons]
      omega

theorem children_length (ε : Type) (tree : DeviceTree) (node : Node) :
    ∃ found cut, (tree.children node : Report ε _).result = .ok (found, cut) ∧
      found.length ≤ tree.tokens.size / 4 ∧
      (node :: found).Pairwise fun first second => first.offset < second.offset := by
  obtain ⟨found, cut, drained, drains⟩ := tree.children_drains ε node
  refine ⟨found, cut, drained, ?_,
    drains.increasing fun child looked => firstChild?_after looked⟩
  cases entered : (tree.body node).result with
  | error failure =>
      have lost : tree.firstChild? node = .error failure := by
        rw [firstChild?, DeviceTree.firstChild, Report.result_bind, entered]
        rfl
      rw [lost] at drains
      cases drains
      exact Nat.zero_le _
  | ok body =>
      obtain ⟨located, read, told⟩ := Report.bind_ok_iff.mp entered
      split at told
      · rename_i name same
        have opened : tree.Reads node.offset (.beginNode name) located.next :=
          same ▸ reads_of_token read
        have short := drains.length (firstChild?_tells opened) fun start _ => Nat.zero_le start
        omega
      · cases told

/-- A token that is read begins with a tag in the structure block and ends four bytes or more behind
it. So walks over tokens and rows of siblings end after as many tokens and nodes as there are fours
of bytes in the block, and every name and value that is handed out lies in the block. -/
theorem reading_progresses (tree : DeviceTree) :
    let most := tree.tokens.size / 4
    (∀ offset located, (tree.token offset).result = .ok located →
        ∃ place, offset ≤ place ∧ place + 4 ≤ tree.tokens.size ∧ place + 4 ≤ located.next ∧
          tree.Stamped place located.token located.next) ∧
      (∀ identifier,
        (tree.traced 0 (tree.compatibleVisit identifier) ()).1 =
            (tree.findCompatible identifier).result ∧
          (tree.traced 0 (tree.compatibleVisit identifier) ()).2.length ≤ most + 1) ∧
      (∀ node name,
        (tree.tracedProperty node name).1 = (tree.property node name).result ∧
          (tree.tracedProperty node name).2.length ≤ most + 1) ∧
      (∀ start,
        (tree.traced start (tree.propertiesVisit start) ()).1 =
            (tree.skipProperties start).result ∧
          (tree.traced start (tree.propertiesVisit start) ()).2.length ≤ most + 1) ∧
      (∀ start,
        (tree.traced start (tree.closingVisit start) 0).1 = (tree.skipNode start).result ∧
          (tree.traced start (tree.closingVisit start) 0).2.length ≤ most + 1) ∧
      (∀ (ε : Type) node, ∃ found cut,
        (tree.children node : Report ε _).result = .ok (found, cut) ∧ found.length ≤ most ∧
          (node :: found).Pairwise fun first second => first.offset < second.offset) ∧
      ∀ value,
        ((∃ offset located, (tree.token offset).result = .ok located ∧
            located.token.text? = some value) ∨
          (∃ node, (tree.name node).result = .ok value) ∨
          (∃ node name, (tree.property node name).result = .ok (some value)) ∨
          ∃ node name, (tree.readBytes node name).result = .ok value) →
        value.PartOf tree.tokens := by
  intro most
  refine ⟨?_, ?_, ?_, ?_, ?_, ?_, ?_⟩
  · intro offset located read
    have stamped := stamped_of_token read
    exact ⟨tree.skipNops offset, tree.le_skipNops offset, stamped.inside, stamped.advances, stamped⟩
  · exact fun identifier => ⟨tracedFrom_result _ _ _, tracedFrom_length _ _ _⟩
  · exact fun node name =>
      ⟨tree.tracedProperty_result node name, tree.tracedProperty_length node name⟩
  · exact fun start => ⟨tracedFrom_result _ _ _, tracedFrom_length _ _ _⟩
  · exact fun start => ⟨tracedFrom_result _ _ _, tracedFrom_length _ _ _⟩
  · exact fun ε node => tree.children_length ε node
  · rintro value (⟨offset, located, read, carried⟩ | ⟨node, named⟩ | ⟨node, name, held⟩ |
      ⟨node, name, held⟩)
    · exact token_text_part read carried
    · exact name_part named
    · exact property_part held
    · exact readBytes_part held

/-- In a block that is too short for a third token, the search tries to read one. -/
example :
    let tree : DeviceTree := ⟨Window.ofBytes [0, 0, 0, 2, 0, 0, 0, 2], Window.ofBytes []⟩
    (tree.traced 0 (tree.compatibleVisit "x") ()).2 = [0, 4, 8] := by
  decide +kernel

end DeviceTree

end PartitionBoot
