import PartitionBoot.Memory.Window
import PartitionBoot.Report

/-!
The structure block of a flattened device tree as a sequence of tokens. Each token starts at or
after the offset it is looked for at, lies inside the block, and ends at least four bytes further
on, so every walk over tokens ends.
-/

namespace PartitionBoot

namespace DeviceTree

def magic : UInt32 := 0xd00dfeed

def headerSize : Nat := 40

namespace Tag

def beginNode : UInt32 := 1
def endNode : UInt32 := 2
def property : UInt32 := 3
def nop : UInt32 := 4
def finish : UInt32 := 9

end Tag

inductive Token where
  | beginNode (name : Window)
  | endNode
  | property (nameOffset : UInt32) (value : Window)
  | finish

/-- A token looked for at `offset` in a block of `limit` bytes, and where the next one is looked
for. -/
structure Located (limit offset : Nat) where
  token : Token
  next : Nat
  inside : offset + 4 ≤ limit
  advances : offset + 4 ≤ next

end DeviceTree

structure DeviceTree where
  tokens : Window
  names : Window

namespace DeviceTree

def outside : BootFailure := .manifestMalformed .outOfBounds

def malformed : BootFailure := .manifestMalformed .badStructure

def ofWindow (blob : Window) : Report BootFailure DeviceTree := do
  let found ← Report.require (blob.be32? 0) outside
  if found != magic then
    Report.failNoting (.manifestMagic found) (.manifestMissing (.manifestMagic found))
  else
    let field (offset : Nat) : Report BootFailure Nat := do
      let value ← Report.require (blob.be32? offset) outside
      pure value.toNat
    let totalSize ← field 4
    let tokensOffset ← field 8
    let namesOffset ← field 12
    let namesSize ← field 32
    let tokensSize ← field 36
    let whole ← Report.require (blob.slice? 0 totalSize) outside
    let tokens ← Report.require (whole.slice? tokensOffset tokensSize) outside
    let names ← Report.require (whole.slice? namesOffset namesSize) outside
    pure { tokens, names }

/-- Reads the tree at an address. Only the magic number is read before it matches, only the header
before the size of the blob is known. -/
def ofAddress (memory : Memory) (address : UInt64) : Report BootFailure DeviceTree := do
  let head := memory.window address.toNat 4
  if head.be32? 0 != some magic then ofWindow head
  else
    let header := memory.window address.toNat headerSize
    let totalSize ← Report.require (header.be32? 4) outside
    ofWindow (memory.window address.toNat (max totalSize.toNat headerSize))

def skipNops (tree : DeviceTree) (offset : Nat) : Nat :=
  if found : tree.tokens.be32? offset = some Tag.nop then tree.skipNops (offset + 4) else offset
termination_by tree.tokens.size - offset
decreasing_by
  have bound := Window.be32?_bound found
  omega

theorem le_skipNops (tree : DeviceTree) (offset : Nat) : offset ≤ tree.skipNops offset := by
  fun_induction skipNops tree offset with
  | case1 offset found ih => omega
  | case2 => omega

/-- The token at an offset, behind any NOP tags. A name ends at its zero byte, and names and
values are padded to four bytes. -/
def token (tree : DeviceTree) (offset : Nat) :
    Report BootFailure (Located tree.tokens.size offset) :=
  let start := tree.skipNops offset
  have after : offset ≤ start := tree.le_skipNops offset
  match found : tree.tokens.be32? start with
  | none => Report.fail outside
  | some tag =>
      have bound : start + 4 ≤ tree.tokens.size := Window.be32?_bound found
      let simple (token : Token) : Located tree.tokens.size offset :=
        ⟨token, start + 4, by omega, by omega⟩
      if tag = Tag.beginNode then do
        let rest ← Report.require (tree.tokens.suffix? (start + 4)) outside
        let length ← Report.require (rest.indexOf? 0) outside
        let name := { rest with size := length }
        pure ⟨.beginNode name, alignUp (start + 4 + length + 1) 4, by omega,
          by have := le_alignUp (start + 4 + length + 1) (show 0 < 4 by decide); omega⟩
      else if tag = Tag.endNode then pure (simple .endNode)
      else if tag = Tag.property then do
        let length ← Report.require (tree.tokens.be32? (start + 4)) outside
        let nameOffset ← Report.require (tree.tokens.be32? (start + 8)) outside
        let value ← Report.require (tree.tokens.slice? (start + 12) length.toNat) outside
        pure ⟨.property nameOffset value, alignUp (start + 12 + length.toNat) 4, by omega,
          by have := le_alignUp (start + 12 + length.toNat) (show 0 < 4 by decide); omega⟩
      else if tag = Tag.finish then pure (simple .finish)
      else Report.failNoting (.unexpectedToken tag start) malformed

/-- What a walk does with a token: stop with a result, or hand a value on to the next token. It
sees where the token was looked for, which is never before the start of the walk. -/
abbrev Visit (tree : DeviceTree) (start : Nat) (α β : Type) : Type :=
  β → (offset : Nat) → start ≤ offset → Located tree.tokens.size offset →
    Report BootFailure (α ⊕ β)

def walkFrom {α β : Type} (tree : DeviceTree) (start : Nat) (visit : Visit tree start α β)
    (carried : β) (offset : Nat) (reached : start ≤ offset) : Report BootFailure α := do
  let located ← tree.token offset
  match ← visit carried offset reached located with
  | .inl result => pure result
  | .inr carried =>
      tree.walkFrom start visit carried located.next
        (by have := located.advances; omega)
termination_by tree.tokens.size - offset
decreasing_by
  have inside := located.inside
  have advances := located.advances
  omega

def walk {α β : Type} (tree : DeviceTree) (start : Nat) (visit : Visit tree start α β)
    (carried : β) : Report BootFailure α :=
  tree.walkFrom start visit carried start (Nat.le_refl start)

end DeviceTree

end PartitionBoot
