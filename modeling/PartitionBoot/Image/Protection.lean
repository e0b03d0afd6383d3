import PartitionBoot.Image.Layout
import PartitionBoot.Supervisor.PagePermissions

/-!
Section permissions. Code ends up read-only and executable, data non-executable, and read-only
unless its section is writable. Data loses instruction access before it gains write access.
-/

namespace PartitionBoot

variable {σ : Type}

namespace Image

def protectSection (permissions : PagePermissions σ) (entry : ImageSection) (base : UInt64) :
    Step σ BootFailure Unit := do
  let size := entry.size.toUInt64
  if entry.isCode then
    Step.note (.sectionProtected entry.label base size .code)
    permissions.request .setReadOnly base size
  else
    permissions.request .setNoExec base size
    if entry.isWritable then
      Step.note (.sectionProtected entry.label base size .data)
      permissions.request .clearReadOnly base size
    else
      Step.note (.sectionProtected entry.label base size .constants)
      permissions.request .setReadOnly base size

def protectFrom (permissions : PagePermissions σ) (image : Window) (layout : ImageLayout)
    (index : Nat) : Nat → Step σ BootFailure Unit
  | 0 => pure ()
  | count + 1 => do
      let entry ← sectionEntry image layout index
      if entry.size != 0 then
        let base ← Report.require (layout.addressOf? entry.rva) truncated
        protectSection permissions entry base
      protectFrom permissions image layout (index + 1) count

def protect (permissions : PagePermissions σ) (image : Window) (layout : ImageLayout) :
    Step σ BootFailure Unit :=
  protectFrom permissions image layout 0 layout.sectionCount.toNat

end Image

end PartitionBoot
