import HvisorTool.Library.Machine
import HvisorTool.Library.Ring
import HvisorTool.Bridge.Handshake
import HvisorTool.Bridge.Steady
import HvisorTool.Bridge.StartUp
import HvisorTool.Virtio.Range
import HvisorTool.Virtio.ZoneMem
import HvisorTool.Virtio.ChainBuf
import HvisorTool.Virtio.Chain
import HvisorTool.Gpu.Mapping
import HvisorTool.Virtio.Isolation
import HvisorTool.Virtio.Agree
import HvisorTool.Virtio.Used
import HvisorTool.Blk.Request
import HvisorTool.Net.Packets
import HvisorTool.Scmi.Request
import HvisorTool.Virtio.Accounting
import HvisorTool.Irq.Line
import HvisorTool.Mmio.Regs
import HvisorTool.Mmio.Index
import HvisorTool.Irq.Inject
import HvisorTool.Blk.Worker
import HvisorTool.Library.Counter
import HvisorTool.Virtio.Drain
import HvisorTool.Daemon.Start
import HvisorTool.Daemon.Table
import HvisorTool.Daemon.Add
import HvisorTool.Daemon.Ack
import HvisorTool.Irq.ResRing
import HvisorTool.Library.Bits
import HvisorTool.Mmio.Log
import HvisorTool.Mmio.Features
import HvisorTool.Mmio.QueueAddr
import HvisorTool.Mmio.QueueNum
import HvisorTool.Mmio.Config
import HvisorTool.Scmi.Core
import HvisorTool.Scmi.Protocols
import HvisorTool.Scmi.AllowList
import HvisorTool.Device.Rings
import HvisorTool.Device.Handlers
import HvisorTool.Device.RingSetUp
import HvisorTool.Gpu.Command
import HvisorTool.Gpu.Resources
import HvisorTool.Gpu.Scanouts
import HvisorTool.Gpu.ScatterGather
import HvisorTool.Gpu.Reset
import HvisorTool.Gpu.FrameBuffers
import HvisorTool.Driver.References
import HvisorTool.Gpu.Queues
import HvisorTool.Scmi.Responses
import HvisorTool.Scmi.Answers
import HvisorTool.Device.Batches
import HvisorTool.Library.Scatter
import HvisorTool.Virtio.Buffers
import HvisorTool.Console.Requests
import HvisorTool.Gpu.Response
import HvisorTool.Scmi.Stored
import HvisorTool.Device.UsedLengths
import HvisorTool.Irq.EventIdx
import HvisorTool.Net.Frames
import HvisorTool.Daemon.Control
import HvisorTool.Daemon.ControlFds
import HvisorTool.Library.Links
import HvisorTool.Library.Traced
import HvisorTool.Virtio.ChainTotal
import HvisorTool.Console.Books
import HvisorTool.Virtio.ChainReads
import HvisorTool.Blk.Exact
import HvisorTool.Gpu.Effects
import HvisorTool.Gpu.Completion
import HvisorTool.Boot.ReadFile
import HvisorTool.Gpu.Arithmetic
import HvisorTool.Scmi.Discovery
import HvisorTool.Gpu.ResponseBuffers
import HvisorTool.Gpu.Pixels
import HvisorTool.Boot.Elf
import HvisorTool.Boot.ElfImage
import HvisorTool.Boot.ElfTotal
import HvisorTool.Boot.ElfSafe
import HvisorTool.Config.Json
import HvisorTool.Config.Numbers
import HvisorTool.Boot.Multiboot
import HvisorTool.Library.Plan
import HvisorTool.Boot.MultibootMap
import HvisorTool.Config.Zone
import HvisorTool.Config.ZoneStart
import HvisorTool.Config.ZoneSafe
import HvisorTool.Daemon.Resources
import HvisorTool.Daemon.DeviceInit
import HvisorTool.Daemon.EventSlots
import HvisorTool.Daemon.FailedInit
import HvisorTool.Library.Stream
import HvisorTool.Daemon.Session
