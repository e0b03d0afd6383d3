import PartitionBoot.Report
import PartitionBoot.Supervisor.Registers

/-!
Version negotiation: one version call, whose answer is compared with the advertised version.
-/

namespace PartitionBoot

variable {σ : Type}

def Conduit.request {ε : Type} (conduit : Conduit σ) (function : UInt64)
    (arguments : List UInt64) : Step σ ε Registers := fun state =>
  let answer := conduit.call (Registers.call function arguments) state
  (pure answer.1, answer.2)

namespace Negotiation

def query (conduit : Conduit σ) (advertised : Version) : Step σ CallError Version := do
  let response ← conduit.request FunctionId.version [advertised.encode.toUInt64]
  let word := response.x0.toUInt32
  if word.toInt32 < 0 then Step.fail (CallError.ofCode word.toInt32)
  else pure (Version.decode word)

def negotiate (conduit : Conduit σ) (advertised : Version) : Step σ CallError Negotiation := do
  let peer ← query conduit advertised
  let outcome := evaluate advertised peer
  Step.note (.versionsCompared advertised outcome)
  pure outcome

end Negotiation

end PartitionBoot
