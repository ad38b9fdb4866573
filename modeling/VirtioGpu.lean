import VirtioGpu.Foundation.Memory
import VirtioGpu.Foundation.Transition
import VirtioGpu.Foundation.RefHeap
import VirtioGpu.Virtio.Chain
import VirtioGpu.Gpu.Display
import VirtioGpu.Backend.Device
import VirtioGpu.Foundation.Ensures
import VirtioGpu.Gpu.Exits
import VirtioGpu.Backend.BottomHalf
import VirtioGpu.Backend.Service
import VirtioGpu.Backend.Fence
import VirtioGpu.Backend.ChainAccess
import VirtioGpu.Backend.Call
import VirtioGpu.Backend.UsedLength
import VirtioGpu.Backend.Malformed
import VirtioGpu.Gpu.Change
import VirtioGpu.Gpu.Holders
import VirtioGpu.Gpu.Counts
import VirtioGpu.Backend.GpuRun
import VirtioGpu.Backend.RefCount
import VirtioGpu.Gpu.Backing
import VirtioGpu.Backend.Representation
import VirtioGpu.Gpu.Coverage
import VirtioGpu.Backend.Surfaces
import VirtioGpu.Backend.Confinement
import VirtioGpu.Gpu.Alike
import VirtioGpu.Backend.Reset
import VirtioGpu.Foundation.Fifo
import VirtioGpu.Backend.Queues
import VirtioGpu.Virtio.Rings
import VirtioGpu.Backend.Exchange
import VirtioGpu.Backend.Features
import VirtioGpu.Backend.QueueEnable
import VirtioGpu.Backend.QueueSize
import VirtioGpu.Backend.Header
import VirtioGpu.Backend.QueueFile
import VirtioGpu.Backend.ConfigWrite
import VirtioGpu.Backend.Mirror
import VirtioGpu.Backend.Doorbell
import VirtioGpu.Backend.BackingList
import VirtioGpu.Foundation.KeyedList
import VirtioGpu.Gpu.Release
import VirtioGpu.Gpu.Table
import VirtioGpu.Backend.ResourceTable
import VirtioGpu.Backend.AbsentResource
import VirtioGpu.Virtio.Getchain
import VirtioGpu.Backend.Gathering
import VirtioGpu.Gpu.View
import VirtioGpu.Gpu.Local
import VirtioGpu.Gpu.Layout
import VirtioGpu.Foundation.Stores
import VirtioGpu.Gpu.Transfer
import VirtioGpu.Backend.Rectangles
import VirtioGpu.Backend.Aliasing
import VirtioGpu.Gpu.Footprint
import VirtioGpu.Backend.Commute
import VirtioGpu.Backend.Interrupt
import VirtioGpu.Foundation.Worklist
import VirtioGpu.Vdpy.BottomHalves
import VirtioGpu.Vdpy.Framing
import VirtioGpu.Vdpy.Delivery
import VirtioGpu.Vdpy.Modifier
import VirtioGpu.Vdpy.Wire
import VirtioGpu.Vdpy.Replay
import VirtioGpu.Vdpy.Announce
import VirtioGpu.Foundation.Intervals
import VirtioGpu.Virtio.Completion
import VirtioGpu.Backend.Formats
import VirtioGpu.Backend.ScanoutIds
import VirtioGpu.Gpu.Regions
import VirtioGpu.Foundation.Buffers
import VirtioGpu.Vdpy.Edid
import VirtioGpu.Vdpy.EdidBlocks
import VirtioGpu.Foundation.BitFields
import VirtioGpu.Vdpy.PreferredTiming
import VirtioGpu.Backend.ShownSurface
import VirtioGpu.Backend.BlobSurface
import VirtioGpu.Foundation.Rounds
import VirtioGpu.Vdpy.Calls
import VirtioGpu.Vdpy.EventLoops
import VirtioGpu.Vdpy.HandlerReads
import VirtioGpu.Vdpy.OwnPayload
import VirtioGpu.Block.Chs
import VirtioGpu.Block.Discard
import VirtioGpu.Vdpy.Geometry
import VirtioGpu.Block.Transfer
import VirtioGpu.Backend.Init
import VirtioGpu.Client.Session
import VirtioGpu.Block.Queue
import VirtioGpu.Gpu.RenderThread
import VirtioGpu.Block.Workers
import VirtioGpu.Block.SharedFile
import VirtioGpu.Core.Mevent
import VirtioGpu.Foundation.Bisection
import VirtioGpu.Virtio.FindCr
import VirtioGpu.Virtio.Vhost
import VirtioGpu.Vga.Ports
import VirtioGpu.Vga.VideoMemory
import VirtioGpu.Vga.Indices
import VirtioGpu.Vga.Planar
import VirtioGpu.Foundation.Planes
import VirtioGpu.Foundation.Answers
import VirtioGpu.Vga.Shadow
import VirtioGpu.Vga.Canvas
import VirtioGpu.Vga.Painting
import VirtioGpu.Vga.Console
import VirtioGpu.Core.DmString
import VirtioGpu.Vdpy.Options
import VirtioGpu.Backend.Bar2
import VirtioGpu.Foundation.Turnover
import VirtioGpu.Block.VirtioBlk
import VirtioGpu.Block.BlkSystem
import VirtioGpu.Block.Occupancy
import VirtioGpu.Block.BlkAccount
import VirtioGpu.Block.BlkProgress
import VirtioGpu.Foundation.Simulation
import VirtioGpu.Gpu.Board
import VirtioGpu.Gpu.Pictures
import VirtioGpu.Gpu.Screens
import VirtioGpu.Gpu.Serving
import VirtioGpu.Backend.Exhibition
import VirtioGpu.Vdpy.Record
import VirtioGpu.Client.Renderer
import VirtioGpu.Client.Film
import VirtioGpu.Display.Path
import VirtioGpu.Display.Told
import VirtioGpu.Display.Heard
import VirtioGpu.Display.Screened
import VirtioGpu.Display.Filmed
import VirtioGpu.Backend.Station
import VirtioGpu.Backend.Attendance
import VirtioGpu.Backend.Settling
import VirtioGpu.Backend.Granted
