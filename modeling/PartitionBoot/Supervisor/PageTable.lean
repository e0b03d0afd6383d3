import PartitionBoot.Supervisor.PagePermissions
import Std.Data.TreeMap

/-!
A supervisor that does what it is told: it keeps one attribute word per page, by the address of
the page, and answers version queries and permission calls. It is the world in which the effect of
permission changes on pages can be seen.
-/

namespace PartitionBoot

structure PageTable where
  version : UInt64
  fallback : UInt64
  /-- Addresses that are no multiple of the page size are refused. -/
  aligned : Bool
  pages : Std.TreeMap Nat UInt64

namespace PageTable

def largestUpdate : UInt64 := 0x10000

def refusal (code : Int32) : Registers :=
  Registers.call FunctionId.error [0, code.toUInt32.toUInt64]

def attributes (table : PageTable) (address : UInt64) : UInt64 :=
  table.pages.getD address.toNat table.fallback

def store (table : PageTable) (address attributes : UInt64) : Nat → PageTable
  | 0 => table
  | count + 1 =>
      { table with pages := table.pages.insert address.toNat attributes }.store
        (address + UInt64.ofNat Page.size) attributes count

def answer (call : Registers) (table : PageTable) : Registers × PageTable :=
  if call.x0 = FunctionId.version then
    (Registers.call table.version [], table)
  else if call.x0 = FunctionId.permissionGet then
    if table.aligned && call.x1.toNat % Page.size != 0 then (refusal (-2), table)
    else (Registers.call FunctionId.success [0, table.attributes call.x1], table)
  else if call.x0 = FunctionId.permissionSet then
    if largestUpdate < call.x2 then (refusal (-3), table)
    else (Registers.call FunctionId.success [], table.store call.x1 call.x3 call.x2.toNat)
  else (refusal (-1), table)

def conduit : Conduit PageTable := ⟨answer⟩

/-- The stored pages in ascending order as maximal runs of pages in a row with equal attributes:
the first page, the number of pages, the attributes. -/
def runs (table : PageTable) : List (Nat × Nat × UInt64) :=
  table.pages.toList.foldr (fun page joined =>
    match joined with
    | (base, count, attributes) :: rest =>
        if page.2 = attributes && page.1 + Page.size = base then
          (page.1, count + 1, attributes) :: rest
        else (page.1, 1, page.2) :: joined
    | [] => [(page.1, 1, page.2)]) []

end PageTable

end PartitionBoot
