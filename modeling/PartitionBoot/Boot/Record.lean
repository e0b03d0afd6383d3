import PartitionBoot.Boot.Sequence

/-!
Recording what a boot asks of the world outside: the supervisor calls, the permission changes and
the moves of the image, each in the order of asking.
-/

namespace PartitionBoot

variable {σ : Type}

structure Record (σ : Type) where
  world : σ
  calls : List Registers
  changes : List (PermissionChange × UInt64 × UInt64)
  /-- For each move the address to move to and the size of the image. -/
  moves : List (UInt64 × Nat)

namespace Record

def blank (world : σ) : Record σ := ⟨world, [], [], []⟩

def conduit (conduit : Conduit σ) : Conduit (Record σ) where
  call registers record :=
    let answered := conduit.call registers record.world
    (answered.1, { record with
      world := answered.2, calls := record.calls ++ [registers] })

def permissions (permissions : PagePermissions (Record σ)) : PagePermissions (Record σ) where
  update change base length := fun record =>
    permissions.update change base length
      { record with changes := record.changes ++ [(change, base, length)] }

def relocator (relocator : Relocator (Record σ)) : Relocator (Record σ) where
  relocate context image record :=
    relocator.relocate context image
      { record with moves := record.moves ++ [(context.imageAddress, image.size)] }
  confined context image _ address outside := relocator.confined context image _ address outside

end Record

end PartitionBoot
