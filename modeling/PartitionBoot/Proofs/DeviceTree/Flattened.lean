import PartitionBoot.DeviceTree.Query
import PartitionBoot.Proofs.Window

/-!
Device trees and how they are flattened. A `Forest` is a row of nodes with all that is below them,
together with the choices a flattening makes: the NOP tags in front of each token, the bytes that
pad names and values, and where property names are kept. Padding makes each token a multiple of
four bytes, so a token is flattened to the same bytes wherever it stands.
-/

namespace PartitionBoot

namespace DeviceTree

def tagBytes (tag : UInt32) : List UInt8 := bigEndian 4 tag.toNat

def nops : Nat → List UInt8
  | 0 => []
  | count + 1 => tagBytes Tag.nop ++ nops count

@[simp] theorem length_tagBytes (tag : UInt32) : (tagBytes tag).length = 4 := by
  simp [tagBytes]

@[simp] theorem length_nops (count : Nat) : (nops count).length = 4 * count := by
  induction count with
  | zero => rfl
  | succ count ih =>
      rw [nops, List.length_append, length_tagBytes, ih]
      omega

def Pads (padding : List UInt8) (length : Nat) : Prop :=
  padding.length < 4 ∧ (length + padding.length) % 4 = 0

instance (padding : List UInt8) (length : Nat) : Decidable (Pads padding length) :=
  inferInstanceAs (Decidable (_ ∧ _))

/-- A property, and behind its name and value how it is flattened. -/
structure FlatProperty where
  name : List UInt8
  value : List UInt8
  gap : Nat
  nameOffset : Nat
  padding : List UInt8

namespace FlatProperty

def bytes (property : FlatProperty) : List UInt8 :=
  nops property.gap ++ (tagBytes Tag.property ++ (bigEndian 4 property.value.length ++
    (bigEndian 4 property.nameOffset ++ (property.value ++ property.padding))))

/-- The name holds no zero byte, and the names block holds it with a zero byte behind it. -/
def Valid (names : List UInt8) (property : FlatProperty) : Prop :=
  0 ∉ property.name ∧ property.name ++ [0] <+: names.drop property.nameOffset ∧
    property.nameOffset < UInt32.size ∧ Pads property.padding property.value.length

instance (names : List UInt8) (property : FlatProperty) : Decidable (property.Valid names) :=
  inferInstanceAs (Decidable (_ ∧ _))

@[simp] theorem length_bytes (property : FlatProperty) : property.bytes.length =
    4 * property.gap + (12 + (property.value.length + property.padding.length)) := by
  simp only [bytes, List.length_append, length_nops, length_tagBytes, length_bigEndian]
  omega

end FlatProperty

/-- What stands in front of the children of a node, and how it is flattened. -/
structure Opening where
  name : List UInt8
  properties : List FlatProperty
  gap : Nat
  padding : List UInt8

namespace Opening

def head (opening : Opening) : List UInt8 :=
  nops opening.gap ++ (tagBytes Tag.beginNode ++ (opening.name ++ [0] ++ opening.padding))

def bytes (opening : Opening) : List UInt8 :=
  opening.head ++ opening.properties.flatMap FlatProperty.bytes

def Valid (names : List UInt8) (opening : Opening) : Prop :=
  0 ∉ opening.name ∧ Pads opening.padding (opening.name.length + 1) ∧
    ∀ property ∈ opening.properties, property.Valid names

instance (names : List UInt8) (opening : Opening) : Decidable (opening.Valid names) :=
  inferInstanceAs (Decidable (_ ∧ _))

@[simp] theorem length_head (opening : Opening) : opening.head.length =
    4 * opening.gap + (4 + (opening.name.length + 1 + opening.padding.length)) := by
  simp only [head, List.length_append, length_nops, length_tagBytes, List.length_singleton]

def value? (opening : Opening) (name : List UInt8) : Option (List UInt8) :=
  (opening.properties.find? fun property => property.name = name).map FlatProperty.value

def compatibleWith (opening : Opening) (identifier : List UInt8) : Bool :=
  match opening.value? (nameBytes "compatible") with
  | some list => (list.splitOn 0).contains identifier
  | none => false

/-- A name asks for this node by its full name or by what stands before the first `@`. -/
def called (opening : Opening) (name : List UInt8) : Bool :=
  opening.name.takeWhile (· != 64) = name || opening.name = name

end Opening

def closing (gap : Nat) : List UInt8 := nops gap ++ tagBytes Tag.endNode

@[simp] theorem length_closing (gap : Nat) : (closing gap).length = 4 * gap + 4 := by
  simp [closing]

/-- A row of nodes: none, or a first one with its children, the NOP tags in front of its end, and
the nodes behind it. -/
inductive Forest where
  | empty
  | node (opening : Opening) (children : Forest) (gap : Nat) (rest : Forest)

structure Placed where
  start : Nat
  opening : Opening
  children : Forest

namespace Forest

def bytes : Forest → List UInt8
  | empty => []
  | node opening children gap rest =>
      opening.bytes ++ (children.bytes ++ (closing gap ++ rest.bytes))

def Valid (names : List UInt8) : Forest → Prop
  | empty => True
  | node opening children _ rest =>
      opening.Valid names ∧ children.Valid names ∧ rest.Valid names

instance decidableValid (names : List UInt8) : (forest : Forest) → Decidable (forest.Valid names)
  | empty => inferInstanceAs (Decidable True)
  | node opening children _ rest =>
      have := decidableValid names children
      have := decidableValid names rest
      inferInstanceAs (Decidable (opening.Valid names ∧ children.Valid names ∧ rest.Valid names))

def row : Forest → Nat → List Placed
  | empty, _ => []
  | node opening children gap rest, start =>
      ⟨start, opening, children⟩ :: rest.row
        (start + opening.bytes.length + children.bytes.length + (closing gap).length)

def nodes : Forest → Nat → List Placed
  | empty, _ => []
  | node opening children gap rest, start =>
      ⟨start, opening, children⟩ :: (children.nodes (start + opening.bytes.length) ++ rest.nodes
        (start + opening.bytes.length + children.bytes.length + (closing gap).length))

end Forest

namespace Placed

def below (placed : Placed) : List Placed :=
  placed.children.row (placed.start + placed.opening.bytes.length)

/-- A reader knows a node by the offset of its opening tag or of a NOP tag in front of it. -/
def Denotes (placed : Placed) (node : Node) : Prop :=
  ∃ skipped, skipped ≤ placed.opening.gap ∧ node.offset = placed.start + 4 * skipped

def tagged (placed : Placed) : Node := ⟨placed.start + 4 * placed.opening.gap⟩

def gapped (placed : Placed) : Node := ⟨placed.start⟩

theorem denotes_tagged (placed : Placed) : placed.Denotes placed.tagged :=
  ⟨placed.opening.gap, Nat.le_refl _, rfl⟩

theorem denotes_gapped (placed : Placed) : placed.Denotes placed.gapped :=
  ⟨0, Nat.zero_le _, rfl⟩

end Placed

namespace Forest

theorem row_subset_nodes (forest : Forest) (start : Nat) :
    forest.row start ⊆ forest.nodes start := by
  induction forest generalizing start with
  | empty => exact fun _ member => member
  | node opening children gap rest _ ihRest =>
      intro placed member
      simp only [Forest.row, Forest.nodes, List.mem_cons, List.mem_append] at member ⊢
      rcases member with same | later
      · exact Or.inl same
      · exact Or.inr (Or.inr (ihRest _ later))

end Forest

structure FlatTree where
  opening : Opening
  children : Forest
  closingGap : Nat
  finishGap : Nat
  names : List UInt8
  totalSize : Nat
  tokensOffset : Nat
  namesOffset : Nat

namespace FlatTree

def forest (flat : FlatTree) : Forest := .node flat.opening flat.children flat.closingGap .empty

def tokens (flat : FlatTree) : List UInt8 :=
  flat.forest.bytes ++ (nops flat.finishGap ++ tagBytes Tag.finish)

def root (flat : FlatTree) : Placed := ⟨0, flat.opening, flat.children⟩

def nodes (flat : FlatTree) : List Placed := flat.forest.nodes 0

theorem root_mem_nodes (flat : FlatTree) : flat.root ∈ flat.nodes := List.mem_cons_self

def fields (flat : FlatTree) : List (Nat × Nat) :=
  [(0, magic.toNat), (4, flat.totalSize), (8, flat.tokensOffset), (12, flat.namesOffset),
    (32, flat.names.length), (36, flat.tokens.length)]

/-- The blob is a flattening of the tree: both blocks lie anywhere inside the declared size. -/
structure Encodes (flat : FlatTree) (blob : Window) : Prop where
  valid : flat.forest.Valid flat.names
  fields : ∀ field ∈ flat.fields, blob.Shows field.1 (bigEndian 4 field.2)
  tokens : blob.Shows flat.tokensOffset flat.tokens
  names : blob.Shows flat.namesOffset flat.names
  tokensInside : flat.tokensOffset + flat.tokens.length ≤ flat.totalSize
  namesInside : flat.namesOffset + flat.names.length ≤ flat.totalSize
  small : flat.totalSize < UInt32.size
  present : flat.totalSize ≤ blob.size

end FlatTree

end DeviceTree

end PartitionBoot
