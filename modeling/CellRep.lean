import CellRep.Prog
import CellRep.Pool
import CellRep.GoMap
import CellRep.Strconv
import CellRep.Models
import CellRep.Resources
import CellRep.Conversion
import CellRep.Calls
import CellRep.Delegate
import CellRep.Processors
import CellRep.AuctionCell
import CellRep.Generator
import CellRep.Perform
import CellRep.Batch
import CellRep.Causes
import CellRep.TaskStart
import CellRep.Handlers
import CellRep.Identity
import CellRep.Prediction
import CellRep.Drain
import CellRep.Residual
import CellRep.TaskEnd
import CellRep.Absence
import CellRep.Admission
import CellRep.Json
import CellRep.Providers
import CellRep.ResultFile
import CellRep.RootFS
import CellRep.Journal
import CellRep.Maintain
import CellRep.Cleanup
import CellRep.Evacuator
import CellRep.Narrowing
import CellRep.Matching
import CellRep.Strings
import CellRep.Scoring
import CellRep.StackMap
import CellRep.EvacuationContext
import CellRep.EventStream
import CellRep.Bulker
import CellRep.Codec
import CellRep.Wire
import CellRep.Server
import CellRep.Client
import CellRep.Presence
import CellRep.Announcement
import CellRep.Harmony
import CellRep.Recovery
