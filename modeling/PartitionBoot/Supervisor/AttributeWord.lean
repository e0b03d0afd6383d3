import PartitionBoot.Text

/-!
The attribute word of a page: data access in bits 1 and 0, instruction access in bit 2. Bits
outside these fields are kept as they are.
-/

namespace PartitionBoot

structure AttributeWord where
  bits : UInt32
deriving DecidableEq

namespace AttributeWord

def readWrite : AttributeWord := ⟨0b01⟩
def readOnly : AttributeWord := ⟨0b11⟩
def dataAccess : AttributeWord := ⟨0b11⟩
def nonExecutable : AttributeWord := ⟨0b100⟩

def withoutExecution (word : AttributeWord) : AttributeWord :=
  ⟨word.bits ||| nonExecutable.bits⟩

def withDataAccess (word access : AttributeWord) : AttributeWord :=
  ⟨(word.bits &&& ~~~dataAccess.bits) ||| access.bits⟩

def spelling : List (String × AttributeWord) :=
  [("READ_WRITE", readWrite), ("READ_ONLY", readOnly), ("DATA_ACCESS", dataAccess),
    ("NON_EXECUTABLE", nonExecutable)]

/-- The flags of `bits` that still cover a bit of `rest`, then what no flag covers. -/
def parts (bits : UInt32) : UInt32 → List (String × AttributeWord) → List String
  | rest, [] => if rest = 0 then [] else [hex rest.toNat]
  | rest, (name, flag) :: flags =>
      if bits &&& flag.bits = flag.bits && rest &&& flag.bits != 0 then
        name :: parts bits (rest &&& ~~~flag.bits) flags
      else parts bits rest flags

def text (word : AttributeWord) : String :=
  match parts word.bits word.bits spelling with
  | [] => "MemPermAttributes(0x0)"
  | found => "MemPermAttributes(" ++ " | ".intercalate found ++ ")"

end AttributeWord

end PartitionBoot
