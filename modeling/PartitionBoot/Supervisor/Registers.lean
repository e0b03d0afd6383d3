import PartitionBoot.Supervisor.CallError

/-!
Calls to the supervisor: the register file that carries them and the conduit that makes them.
-/

namespace PartitionBoot

abbrev Registers := Vector UInt64 8

namespace FunctionId

def error : UInt64 := 0x84000060
def success : UInt64 := 0x84000061
def version : UInt64 := 0x84000063
def permissionGet : UInt64 := 0x84000088
def permissionSet : UInt64 := 0x84000089

end FunctionId

namespace Registers

def x0 (registers : Registers) : UInt64 := registers[0]
def x1 (registers : Registers) : UInt64 := registers[1]
def x2 (registers : Registers) : UInt64 := registers[2]
def x3 (registers : Registers) : UInt64 := registers[3]

/-- Calls a function with leading arguments; registers without one are zero and arguments without
a register are dropped. -/
def call (function : UInt64) (arguments : List UInt64) : Registers :=
  Vector.ofFn fun index => (function :: arguments).getD index.val 0

def error? (response : Registers) : Option CallError :=
  if response.x0 = FunctionId.error then
    some (CallError.ofCode response.x2.toUInt32.toInt32)
  else none

def success (response : Registers) : Except CallError Registers :=
  match response.error? with
  | some error => .error error
  | none =>
      if response.x0 = FunctionId.success then .ok response
      else .error (.unknown response.x0.toUInt32.toInt32)

end Registers

/-- How calls reach a supervisor whose state is a `σ`. Nothing is assumed about its answers. -/
structure Conduit (σ : Type) where
  call : Registers → σ → Registers × σ

end PartitionBoot
