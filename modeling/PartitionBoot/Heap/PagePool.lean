import PartitionBoot.AddressRange
import PartitionBoot.Heap.Bitmap
import PartitionBoot.Page
import PartitionBoot.Report

/-!
Page grants over one range of memory. Two bitmaps in the leading pages of the range keep track of
them: one marks the pages that are granted, the other the first page of each grant. A free has to
name exactly one grant, which the two bitmaps decide.
-/

namespace PartitionBoot

inductive HeapFault where
  | alignmentNotPowerOfTwo (alignment : Nat)
  | alignmentOverflow (pages alignment : Nat)
  | aligningOverflow (address alignment : Nat)
  | unmatchedFree (base pages : Nat)
  | freeOutside (buffer : Nat)
  | notLive (buffer signature : Nat)
  | corruptClass (buffer sizeClass : Nat)
  | corruptFreeList (block : Nat)
  | reallocationWraps (source size : Nat)
deriving DecidableEq

def HeapFault.message : HeapFault → String
  | alignmentNotPowerOfTwo alignment => s!"alignment {hex alignment} is not a power of two"
  | alignmentOverflow pages alignment => s!"{pages} pages at alignment {hex alignment} overflows"
  | aligningOverflow address alignment => s!"aligning {hex address} to {hex alignment} overflows"
  | unmatchedFree base pages =>
      s!"free of {hex base} ({pages} pages) does not match any allocation"
  | freeOutside buffer => s!"free of {hex buffer} outside the pool"
  | notLive buffer signature =>
      s!"free of {hex buffer}: no live pool allocation (signature {hex signature})"
  | corruptClass buffer sizeClass => s!"free of {hex buffer}: corrupt pool class {sizeClass}"
  | corruptFreeList block => s!"pool free list corrupted at {hex block}"
  | reallocationWraps source size => s!"reallocation source {hex source} + {hex size} wraps"

structure PagePool where
  bitmap : Nat
  words : Nat
  first : Nat
  total : Nat
  free : Nat
deriving DecidableEq

namespace PagePool

def heads (pool : PagePool) : Nat := pool.bitmap + 8 * pool.words

def address (pool : PagePool) (index : Nat) : Nat := pool.first + Page.bytes index

def stop (pool : PagePool) : Nat := pool.address pool.total

def range (pool : PagePool) : AddressRange :=
  ⟨UInt64.ofNat pool.first, UInt64.ofNat (Page.bytes pool.total)⟩

/-- Takes the whole pages of a range. The leading ones hold the bitmaps and are never granted. -/
def create (range : AddressRange) (memory : Memory) : PagePool × Memory :=
  let size := Page.size
  let stop := match range.end? with
    | some stop => stop.toNat / size * size
    | none => UInt64.size - size
  let whole := range.base.toNat + (size - 1) < UInt64.size
  let base := if whole then alignUp range.base.toNat size else range.base.toNat
  let pages := if whole then (stop - base) / size else 0
  let words := (pages + 63) / 64
  let bookkeeping := min (Page.spanning (16 * words)) pages
  let total := pages - bookkeeping
  let pool : PagePool := {
    bitmap := base
    words
    first := base + Page.bytes bookkeeping
    total
    free := total }
  (pool, if 0 < total then memory.fill base 0 (16 * words) else memory)

def created (pool : PagePool) : Notice :=
  .pagePool pool.first pool.stop pool.total ((pool.first - pool.bitmap) / Page.size)

def used (pool : PagePool) (memory : Memory) (index : Nat) : Bool :=
  memory.testBit pool.bitmap index

def isHead (pool : PagePool) (memory : Memory) (index : Nat) : Bool :=
  memory.testBit pool.heads index

/-- Scans the pages below `index` downwards for `wanted` free pages in a row, of which `run` were
seen already, and passes over words without a free page at once. -/
def scan (pool : PagePool) (memory : Memory) (wanted run index : Nat) : Option Nat :=
  if _ : index = 0 then none
  else
    let page := index - 1
    if page % 64 = 63 && memory.wordFull pool.bitmap (page / 64) then
      pool.scan memory wanted 0 (page - 63)
    else if pool.used memory page then pool.scan memory wanted 0 page
    else if run + 1 = wanted then some page
    else pool.scan memory wanted (run + 1) page
termination_by index

def findFree (pool : PagePool) (memory : Memory) (pages : Nat) : Option Nat :=
  if pool.free < pages then none else pool.scan memory pages 0 pool.total

/-- The page index of a grant, if an address and a page count name one: its first page is the
first of a grant, its other pages are granted and begin no grant, and the grant ends with them. -/
def grantIndex? (pool : PagePool) (memory : Memory) (base pages : Nat) : Option Nat :=
  let offset := base - pool.first
  let index := offset / Page.size
  let stop := index + pages
  if base < pool.first || pages = 0 || offset % Page.size != 0 || pool.total < stop then none
  else
    let whole := pool.isHead memory index &&
      (List.range pages).all (fun page => pool.used memory (index + page)) &&
      (List.range (pages - 1)).all fun page => !pool.isHead memory (index + 1 + page)
    let endsHere := stop = pool.total || !pool.used memory stop || pool.isHead memory stop
    if whole && endsHere then some index else none

def isGranted (pool : PagePool) (memory : Memory) (base pages : Nat) : Bool :=
  (pool.grantIndex? memory base pages).isSome

def mark (pool : PagePool) (memory : Memory) (index pages : Nat) : PagePool × Memory :=
  ({ pool with free := pool.free - pages },
    (memory.setBit pool.heads index true).setBits pool.bitmap index true pages)

def unmark (pool : PagePool) (memory : Memory) (index pages : Nat) : PagePool × Memory :=
  ({ pool with free := pool.free + pages },
    (memory.setBit pool.heads index false).setBits pool.bitmap index false pages)

end PagePool

end PartitionBoot
