import PartitionBoot.Image.Fixup
import PartitionBoot.Image.Protection
import PartitionBoot.Volume

/-!
Loading the core image of a volume: locate it, lay it out, protect its sections and, where it does
not sit at its linked address, move it.
-/

namespace PartitionBoot

variable {σ : Type}

/-- Memory together with the state `σ` of everything outside the partition. -/
structure Machine (σ : Type) where
  memory : Memory
  outside : σ

def Machine.outsideStep {ε α : Type} (step : Step σ ε α) : Step (Machine σ) ε α :=
  Step.focus (·.outside) (fun machine outside => { machine with outside }) step

/-- Whatever moves images, with its state a `σ`. It gets the image to move and changes no memory
outside of it, even when it fails. -/
structure Relocator (σ : Type) where
  relocate : ImageContext → Window → σ → Report RelocationError Unit × Memory × σ
  confined : ∀ context image state address, ¬ image.Covers address →
    (relocate context image state).2.1.read address = image.memory.read address

def Relocator.fixups : Relocator σ where
  relocate context image state :=
    let outcome := Fixup.relocate context image
    let report : Report RelocationError Unit :=
      match outcome.result with
      | .error error => Report.fail error
      | .ok applied =>
          if Fixup.distance context = 0 then pure ()
          else Report.note (.fixupsApplied applied (Fixup.distance context))
    (report, outcome.image.memory, state)
  confined context image _ address outside :=
    (Fixup.relocate_follows context image).outside address outside

def Relocator.reporting (report : Report RelocationError Unit) : Relocator σ where
  relocate _ image state := (report, image.memory, state)
  confined _ _ _ _ _ := rfl

/-- Why loading stops: a failure of the boot, or an image that is left half moved, which is a
fault of the build and not reported as a failure. -/
inductive Stop where
  | failed (failure : BootFailure)
  | halfMoved (error : RelocationError)
deriving DecidableEq

def RelocationError.faultMessage (error : RelocationError) : String :=
  s!"MM core relocation failed: {error.message}"

def Step.orStop {τ α : Type} (step : Step τ BootFailure α) : Step τ Stop α :=
  step.recover fun failure => Report.fail (.failed failure)

structure LoadedImage where
  context : ImageContext
  layout : ImageLayout
  dataAddress : UInt64
  size : Nat
  relocated : Bool
deriving DecidableEq

def LoadedImage.entryPoint? (image : LoadedImage) : Option UInt64 :=
  image.layout.addressOf? image.context.entryPoint

namespace Image

def moveWith (relocator : Relocator σ) (context : ImageContext) (image : Window) :
    Step (Machine σ) Stop Unit := fun machine =>
  let (report, memory, outside) :=
    relocator.relocate context { image with memory := machine.memory } machine.outside
  (report.recover fun error => Report.fail (.halfMoved error), { machine with memory, outside })

/-- Moves an image unless it sits where its headers expect it, and says whether it did. The header
page is made non-executable and writable for the move and read-only again afterwards. -/
def relocateIfNeeded (permissions : PagePermissions σ) (relocator : Relocator σ)
    (headerPageSize : UInt64) (context : ImageContext) (layout : ImageLayout) (image : Window)
    (dataAddress : UInt64) : Step (Machine σ) Stop Bool := do
  if context.imageAddress = dataAddress then
    Step.note .imageInPlace
    pure false
  else
    let request (change : PermissionChange) : Step (Machine σ) Stop Unit :=
      (Machine.outsideStep (permissions.request change layout.trueBase headerPageSize)).orStop
    Step.note (.imageMoving context.imageAddress dataAddress)
    request .setNoExec
    request .clearReadOnly
    moveWith relocator { context with imageAddress := dataAddress } image
    request .setReadOnly
    pure true

def load (permissions : PagePermissions σ) (relocator : Relocator σ) (headerPageSize : UInt64)
    (address : UInt64) (size : Nat) : Step (Machine σ) Stop LoadedImage := do
  let machine ← get
  let volume := machine.memory.window address.toNat size
  let location ← (Step.ofReport (Volume.locateImage volume)).orStop
  let image ← (Step.ofReport
    (Report.require (volume.slice? location.offset location.size) .imageNotFound)).orStop
  let dataAddress := address + UInt64.ofNat location.offset
  let (context, layout) ← (Step.ofReport (computeLayout image dataAddress)).orStop
  (Machine.outsideStep (protect permissions image layout)).orStop
  let relocated ← relocateIfNeeded permissions relocator headerPageSize context layout image
    dataAddress
  let loaded : LoadedImage := {
    context := { context with imageAddress := dataAddress }
    layout
    dataAddress
    size := location.size
    relocated }
  if let some entry := loaded.entryPoint? then
    Step.note (.entryPoint entry)
  pure loaded

end Image

end PartitionBoot
