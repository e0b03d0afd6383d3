import PartitionBoot.Page
import PartitionBoot.Supervisor.Negotiation

/-!
Changes of page permissions. A supervisor keeps one attribute word per page; a change reads the
word of the first page of a range and stores the changed word for every page of the range.
-/

namespace PartitionBoot

variable {σ : Type}

/-- Whatever carries out permission changes, with its state a `σ`. -/
structure PagePermissions (σ : Type) where
  update : PermissionChange → (base length : UInt64) → Step σ CallError Unit

def PermissionChange.apply : PermissionChange → AttributeWord → AttributeWord
  | setNoExec, word => word.withoutExecution
  | setReadOnly, word => word.withDataAccess AttributeWord.readOnly
  | clearReadOnly, word => word.withDataAccess AttributeWord.readWrite

namespace Conduit

def attributes (conduit : Conduit σ) (base : UInt64) : Step σ CallError AttributeWord := do
  let response ← conduit.request FunctionId.permissionGet [base]
  let granted ← Step.ofReport (Report.ofExcept response.success)
  pure ⟨granted.x2.toUInt32⟩

def setAttributes (conduit : Conduit σ) (base length : UInt64) (word : AttributeWord) :
    Step σ CallError Unit := do
  let pages := UInt64.ofNat (Page.spanning length.toNat)
  let response ← conduit.request FunctionId.permissionSet [base, pages, word.bits.toUInt64]
  let _ ← Step.ofReport (Report.ofExcept response.success)
  Step.note (.permissionsStored base (base + Page.distance pages) word)

def permissions (conduit : Conduit σ) : PagePermissions σ where
  update change base length := do
    let word ← conduit.attributes base
    conduit.setAttributes base length (change.apply word)

end Conduit

def PagePermissions.request (permissions : PagePermissions σ) (change : PermissionChange)
    (base length : UInt64) : Step σ BootFailure Unit :=
  (permissions.update change base length).recover fun error =>
    Report.failNoting (.permissionRefused change base error)
      (.permissionRefused change base error)

end PartitionBoot
