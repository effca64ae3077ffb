import PNet.Alarm.Kept
import PNet.Alarm.Numbering
import PNet.Alarm.Payload
import PNet.Alarm.Queues
import PNet.Alarm.Receiver
import PNet.Block.Primitives
import PNet.Cmdev.DiagRead
import PNet.Cmdev.Lookup
import PNet.Cmdev.SubmoduleDiff
import PNet.Cmdev.Summary
import PNet.Cmina.StationName
import PNet.Connect.Covered
import PNet.Connect.FrameIds
import PNet.Cyclic.Acceptance
import PNet.Cyclic.FrameSize
import PNet.Cyclic.Instances
import PNet.Cyclic.KeepingPace
import PNet.Cyclic.RteObjects
import PNet.Cyclic.RxCount
import PNet.Cyclic.Sram
import PNet.Dcp.Reads
import PNet.Dcp.Responder
import PNet.Dcp.Sam
import PNet.Eth.Receive
import PNet.Fspm.Location
import PNet.LifeCycle.History
import PNet.Lldp.Decoded
import PNet.Lldp.RoundTrip
import PNet.Pdport.Transmission
import PNet.Response.DiffFormat
import PNet.Rpc.Outstanding
import PNet.Rpc.Reassembly
import PNet.Rpc.Reparam
import PNet.Scheduler.Stale
import PNet.Eth.Handlers
