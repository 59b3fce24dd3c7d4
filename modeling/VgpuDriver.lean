import VgpuDriver.Data.Transition
import VgpuDriver.Data.Partition
import VgpuDriver.Global
import VgpuDriver.Memory
import VgpuDriver.Idr
import VgpuDriver.ResourceState
import VgpuDriver.CommandBuilders
import VgpuDriver.Outcome
import VgpuDriver.AllocatorRuns
import VgpuDriver.Allocator
import VgpuDriver.Effects
import VgpuDriver.Live
import VgpuDriver.Signals
import VgpuDriver.IdleRuns
import VgpuDriver.WakeupRuns
import VgpuDriver.Ledger
import VgpuDriver.MemorySteps
import VgpuDriver.MapRuns
import VgpuDriver.Data.Replay
import VgpuDriver.IoSpaceRuns
import VgpuDriver.PageRuns
import VgpuDriver.IdWrap
import VgpuDriver.Sent
import VgpuDriver.TraceSteps
import VgpuDriver.IdRuns
import VgpuDriver.IsolationRuns
import VgpuDriver.FenceRuns
import VgpuDriver.Data.Levels
import VgpuDriver.Irql
import VgpuDriver.IrqlLimits
import VgpuDriver.ContextRaces
import VgpuDriver.ResourceRemovals
import VgpuDriver.MappingRaces
import VgpuDriver.FenceThreads
import VgpuDriver.FenceRaces
import VgpuDriver.Capsets
import VgpuDriver.IdrRuns
import VgpuDriver.ContextInit
import VgpuDriver.Submission
import VgpuDriver.CheckedReads
import VgpuDriver.Teardown
import VgpuDriver.BadFree
import VgpuDriver.Data.Rounding
import VgpuDriver.PageRounding
import VgpuDriver.RoundedSizes
import VgpuDriver.Creation
import VgpuDriver.Data.Chunks
import VgpuDriver.Scatter
import VgpuDriver.FailedSubmits
import VgpuDriver.HostResources
import VgpuDriver.RequestCompletion
import VgpuDriver.Holdings
import VgpuDriver.CommandRelease
import VgpuDriver.UserMappings
import VgpuDriver.PowerDown
import VgpuDriver.ContextBrackets
import VgpuDriver.BracketRuns
import VgpuDriver.Data.SetFold
import VgpuDriver.HandleSets
import VgpuDriver.ScatterBounds
import VgpuDriver.PageReuse
import VgpuDriver.BackingLedger
import VgpuDriver.PageReuseRuns
import VgpuDriver.Data.LockOrder
import VgpuDriver.SpinLocks
import VgpuDriver.Fragmentation
import VgpuDriver.Data.Packed
import VgpuDriver.Wire
import VgpuDriver.WireTransport
import VgpuDriver.RawBuffers
import VgpuDriver.Data.Doorbells
import VgpuDriver.Interrupts
import VgpuDriver.WaitsEnd
import VgpuDriver.FenceSignals
import VgpuDriver.Data.OwnerTable
import VgpuDriver.HandleTable
import VgpuDriver.Data.Custody
import VgpuDriver.Lifecycle
import VgpuDriver.LifecycleRuns
