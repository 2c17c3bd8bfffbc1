import PixelPipeline.Device.Grid
import PixelPipeline.Device.HostMemory
import PixelPipeline.Device.Texture
import PixelPipeline.Processor.Lifecycle
import PixelPipeline.Pipeline.Declaration
import PixelPipeline.Pipeline.Loading
import PixelPipeline.Pipeline.Text
import PixelPipeline.Command.Execution
import PixelPipeline.Main
import PixelPipeline.Proofs.Outcome
import PixelPipeline.Proofs.Lookup
import PixelPipeline.Proofs.Edits
import PixelPipeline.Proofs.Record
import PixelPipeline.Proofs.Session
import PixelPipeline.Proofs.Erasure
import PixelPipeline.Proofs.Lifecycle
import PixelPipeline.Proofs.Ledger
import PixelPipeline.Proofs.Build
import PixelPipeline.Proofs.Growth
import PixelPipeline.Proofs.InPlace
import PixelPipeline.Proofs.Namespace
import PixelPipeline.Proofs.Values
import PixelPipeline.Proofs.Snapshot
import PixelPipeline.Proofs.Parameters
import PixelPipeline.Proofs.Declaration
import PixelPipeline.Proofs.Refusals
import PixelPipeline.Proofs.Lineage
import PixelPipeline.Proofs.HostTables
import PixelPipeline.Proofs.LastBuild
import PixelPipeline.Proofs.Hosting
import PixelPipeline.Proofs.Interpretation
import PixelPipeline.Proofs.Interface
import PixelPipeline.Proofs.Convention
import PixelPipeline.Proofs.SlotRuns
import PixelPipeline.Proofs.Generations
import PixelPipeline.Proofs.Replacement
import PixelPipeline.Proofs.Journal
import PixelPipeline.Proofs.Script
import PixelPipeline.Proofs.Outlines
import PixelPipeline.Proofs.Yields
import PixelPipeline.Proofs.Panics
import PixelPipeline.Proofs.Execution
import PixelPipeline.Proofs.Holding
import PixelPipeline.Proofs.Sizes
import PixelPipeline.Proofs.Capacity
import PixelPipeline.Proofs.RoundTrip
import PixelPipeline.Proofs.Renaming
import PixelPipeline.Proofs.Twins
import PixelPipeline.Proofs.Publication
import PixelPipeline.Proofs.Units
import PixelPipeline.Proofs.Availability
import PixelPipeline.Proofs.Construction
import PixelPipeline.Proofs.Layout
import PixelPipeline.Proofs.Preamble
import PixelPipeline.Proofs.Threads
import PixelPipeline.Proofs.Tiling
import PixelPipeline.Proofs.Assembly
import PixelPipeline.Proofs.ZeroBody
import PixelPipeline.Proofs.Scopes
import PixelPipeline.Proofs.Linkage
import PixelPipeline.Proofs.Recovery
import PixelPipeline.Proofs.FileWrites
import PixelPipeline.Proofs.Computation
import PixelPipeline.Proofs.Delivery
import PixelPipeline.Proofs.Directories
import PixelPipeline.Proofs.Sheets
import PixelPipeline.Proofs.Interruption
import PixelPipeline.Proofs.ByteCounts
import PixelPipeline.Proofs.RawBytes
import PixelPipeline.Proofs.Settings
