import WebrtcDemo.Lib.Machine
import WebrtcDemo.Lib.Ledger
import WebrtcDemo.Lib.Rounding
import WebrtcDemo.Lib.Precision
import WebrtcDemo.Lib.Numeral
import WebrtcDemo.Lib.Decimal
import WebrtcDemo.Lib.Slots
import WebrtcDemo.Lib.Mailbox
import WebrtcDemo.Lib.Relay
import WebrtcDemo.Lib.RefCount
import WebrtcDemo.Lib.Timer
import WebrtcDemo.Lib.Block
import WebrtcDemo.Lib.Gallery
import WebrtcDemo.Json.Value
import WebrtcDemo.Json.JsonTools
import WebrtcDemo.Json.LongLong
import WebrtcDemo.Json.Reader
import WebrtcDemo.Json.RoundTrip
import WebrtcDemo.Json.Getters
import WebrtcDemo.Json.Vectors
import WebrtcDemo.Client.State
import WebrtcDemo.Client.Wire
import WebrtcDemo.Client.Peer
import WebrtcDemo.Client.Conference
import WebrtcDemo.Client.Manager
import WebrtcDemo.Client.Interface
import WebrtcDemo.Client.Logout
import WebrtcDemo.Client.Process
import WebrtcDemo.Client.WebSocket
import WebrtcDemo.Video.Frame
import WebrtcDemo.Video.Render
import WebrtcDemo.Video.Capture
import WebrtcDemo.Video.Threads
import WebrtcDemo.Video.CameraThread
import WebrtcDemo.Run.Operations
import WebrtcDemo.Run.Halves
import WebrtcDemo.Run.Quiet
import WebrtcDemo.Run.Server
import WebrtcDemo.Run.Transition
import WebrtcDemo.Run.Events
import WebrtcDemo.Run.Ownership
import WebrtcDemo.Run.Messages
import WebrtcDemo.Run.Binding
import WebrtcDemo.Run.Correlation
import WebrtcDemo.Run.Peers
import WebrtcDemo.Run.Outstanding
import WebrtcDemo.Run.Admin
import WebrtcDemo.Run.Joins
import WebrtcDemo.Run.Publishers
import WebrtcDemo.Run.FanOut
import WebrtcDemo.Run.Feeds
import WebrtcDemo.Run.Unpublish
import WebrtcDemo.Run.Routing
import WebrtcDemo.Run.Media
import WebrtcDemo.Run.Registry
import WebrtcDemo.Run.Lifetime
import WebrtcDemo.Run.Streams
import WebrtcDemo.Run.Leave
import WebrtcDemo.Run.Handles
import WebrtcDemo.Run.Logout
import WebrtcDemo.Run.Windows
import WebrtcDemo.Run.Candidates
import WebrtcDemo.Run.Holders
import WebrtcDemo.Run.Subscribers
import WebrtcDemo.Run.Session
import WebrtcDemo.Run.Channels
import WebrtcDemo.Run.Roster
import WebrtcDemo.Run.Safety
import WebrtcDemo.Run.Besides
import WebrtcDemo.Run.Unassigned
import WebrtcDemo.Run.Sinks
import WebrtcDemo.Run.Renders
import WebrtcDemo.Run.Packing
import WebrtcDemo.Run.Ranges
import WebrtcDemo.Run.Overrun
import WebrtcDemo.Run.Gallery
import WebrtcDemo.Run.Threads
import WebrtcDemo.Run.CameraThread
import WebrtcDemo.Run.Publishing
import WebrtcDemo.Run.Orientation
import WebrtcDemo.Run.Preview
import WebrtcDemo.Run.Timestamps
import WebrtcDemo.Run.Delivery
import WebrtcDemo.Run.Connections
import WebrtcDemo.Stream.Conference
import WebrtcDemo.Run.Signals
import WebrtcDemo.Run.Descriptions
import WebrtcDemo.Run.Negotiation
import WebrtcDemo.Run.Passing
import WebrtcDemo.Run.Outcomes
import WebrtcDemo.Run.Requests
import WebrtcDemo.Run.RoomIds
import WebrtcDemo.Run.Ignored
import WebrtcDemo.Run.Removal
import WebrtcDemo.Run.LocalStream
import WebrtcDemo.Run.Pointers
import WebrtcDemo.Run.Keepalive
import WebrtcDemo.Run.Echo
import WebrtcDemo.Run.Wire
import WebrtcDemo.Run.Timers
import WebrtcDemo.Run.Healthy
import WebrtcDemo.Run.Silence
