import PartitionBoot.Boot.Sequence
import PartitionBoot.Boot.Record
import PartitionBoot.DeviceTree.Outline
import PartitionBoot.Memory.Contents
import PartitionBoot.Supervisor.PageTable
import PartitionBoot.Proofs.Heap.Grants
import PartitionBoot.Proofs.Outcome
import PartitionBoot.Proofs.Heap.GrantLookup
import PartitionBoot.Proofs.Heap.PageSteps
import PartitionBoot.Proofs.Heap.BoundedBitmaps
import PartitionBoot.Proofs.Heap.PageHistory
import PartitionBoot.Proofs.Heap.FreeLists
import PartitionBoot.Proofs.Heap.Inventory
import PartitionBoot.Proofs.Heap.StockChanges
import PartitionBoot.Proofs.Heap.BlockChanges
import PartitionBoot.Proofs.Heap.BufferSteps
import PartitionBoot.Proofs.Heap.BufferContents
import PartitionBoot.Proofs.Supervisor.PageKeeper
import PartitionBoot.Proofs.Image.WriteOrExecute
import PartitionBoot.Proofs.Image.TwoMoves
import PartitionBoot.Proofs.Volume.Location
import PartitionBoot.Proofs.Supervisor.PageTable
import PartitionBoot.Proofs.Window
import PartitionBoot.Proofs.DeviceTree.Flattened
import PartitionBoot.Proofs.DeviceTree.Tokens
import PartitionBoot.Proofs.DeviceTree.Walks
import PartitionBoot.Proofs.DeviceTree.Rows
import PartitionBoot.Proofs.DeviceTree.Queries
import PartitionBoot.Proofs.DeviceTree.Agreement
import PartitionBoot.Proofs.Supervisor.PageChange
import PartitionBoot.Proofs.Image.SectionAccess
import PartitionBoot.Proofs.Image.Loaded
import PartitionBoot.Proofs.Image.LockedPages
import PartitionBoot.Proofs.HandOff
import PartitionBoot.Proofs.Manifest
import PartitionBoot.Proofs.Boot.ExitCode
import PartitionBoot.Proofs.Boot.Started
import PartitionBoot.Proofs.Heap.StockTurns
import PartitionBoot.Proofs.Heap.StockRun
import PartitionBoot.Proofs.Heap.RetiredBlocks
import PartitionBoot.Proofs.Heap.PageOwners
import PartitionBoot.Proofs.Heap.PageSearch
import PartitionBoot.Proofs.Heap.PageBalance
import PartitionBoot.Proofs.Heap.Exhaustion
import PartitionBoot.Proofs.Heap.PoolLayout
import PartitionBoot.Proofs.Heap.HighestWindow
import PartitionBoot.Proofs.Heap.AlignedGrants
import PartitionBoot.Proofs.Heap.Reallocation
import PartitionBoot.Proofs.Image.Confined
import PartitionBoot.Proofs.Boot.Footprint
import PartitionBoot.Proofs.Image.Addresses
import PartitionBoot.Proofs.Supervisor.Requests
import PartitionBoot.Proofs.Image.Requests
import PartitionBoot.Proofs.Image.Journal
import PartitionBoot.Proofs.Image.FinalPermissions
import PartitionBoot.Proofs.Image.SingleMove
import PartitionBoot.Proofs.Image.Refusals
import PartitionBoot.Proofs.Heap.RefusedRequests
import PartitionBoot.Proofs.DeviceTree.Readings
import PartitionBoot.Proofs.DeviceTree.Subtrees
import PartitionBoot.Proofs.DeviceTree.Siblings
import PartitionBoot.Proofs.DeviceTree.Searches
import PartitionBoot.Proofs.DeviceTree.PropertyLists
import PartitionBoot.Proofs.Manifest.Parsing
import PartitionBoot.Proofs.Manifest.Regions
import PartitionBoot.Proofs.HandOff.Encoded
import PartitionBoot.Proofs.DeviceTree.Handles
import PartitionBoot.Proofs.Volume.Images
import PartitionBoot.Proofs.Image.TableWalk
import PartitionBoot.Proofs.Boot.Failures
import PartitionBoot.Proofs.Boot.HeapPolicy
import PartitionBoot.Proofs.Image.EmptyTable
import PartitionBoot.Proofs.DeviceTree.Progress
import PartitionBoot.Proofs.SameBytes
import PartitionBoot.Proofs.DeviceTree.SameAnswers
import PartitionBoot.Proofs.HandOff.SameAnswers
import PartitionBoot.Proofs.Boot.StagedReaders
