import DebugBridge.Hub.Exchange
import DebugBridge.Main
import DebugBridge.Proofs.Json.Members
import DebugBridge.Proofs.Text.Utf8
import DebugBridge.Session.Call
import DebugBridge.Proofs.Json.Strings
import DebugBridge.Proofs.Json.Numbers
import DebugBridge.Proofs.Json.RoundTrip
import DebugBridge.Proofs.Json.Decoded
import DebugBridge.Proofs.Message.Request
import DebugBridge.Proofs.Hub.Sound
import DebugBridge.Proofs.Message.Response
import DebugBridge.Proofs.Relay.Outputs
import DebugBridge.Proofs.Relay.Worker
import DebugBridge.Proofs.Session.Frame
import DebugBridge.Proofs.Session.Start
import DebugBridge.Proofs.Session.Dispatch
import DebugBridge.Proofs.Session.Run
import DebugBridge.Proofs.Session.Queue
import DebugBridge.Proofs.Session.Correlation
import DebugBridge.Proofs.Session.Traffic
import DebugBridge.Proofs.Json.Depth
import DebugBridge.Proofs.Session.Conversation
import DebugBridge.Proofs.Session.ReplySource
import DebugBridge.Proofs.Wire.RoundTrip
import DebugBridge.Proofs.Relay.Conservation
import DebugBridge.Proofs.Relay.Configuration
import DebugBridge.Proofs.Rendering.Leftovers
import DebugBridge.Proofs.Session.Events
import DebugBridge.Proofs.Launch.Snippet
import DebugBridge.Proofs.Session.Fleet
import DebugBridge.Proofs.Hub.Registry
import DebugBridge.Proofs.Hub.Delivery
import DebugBridge.Proofs.Threads.Tracking
import DebugBridge.Proofs.Session.OneLaunch
import DebugBridge.Proofs.Session.Breakpoints
import DebugBridge.Proofs.Relay.Completion
import DebugBridge.Proofs.Wire.Stream
import DebugBridge.Proofs.Session.Loss
import DebugBridge.Proofs.Message.Envelope
import DebugBridge.Proofs.Text.Decoded
import DebugBridge.Proofs.Text.Numeral
import DebugBridge.Proofs.Wire.Heading
import DebugBridge.Proofs.Wire.Grammar
import DebugBridge.Proofs.Rendering.Assignment
import DebugBridge.Proofs.Rendering.Interleaving
import DebugBridge.Proofs.Wire.Cut
import DebugBridge.Proofs.Session.Forwarding
import DebugBridge.Proofs.Rendering.Contract
import DebugBridge.Proofs.Session.Handlers
import DebugBridge.Proofs.Hub.Ends
import DebugBridge.Proofs.Session.Variables
import DebugBridge.Proofs.Launch.Code
import DebugBridge.Proofs.Launch.Quoting
import DebugBridge.Proofs.Cell.Edits
import DebugBridge.Proofs.Cell.Murmur
import DebugBridge.Proofs.Launch.Options
import DebugBridge.Proofs.Json.Lines
import DebugBridge.Proofs.Session.Entries
import DebugBridge.Proofs.Relay.Written
import DebugBridge.Proofs.Session.Arrivals
import DebugBridge.Proofs.Bridge.Turns
import DebugBridge.Proofs.Bridge.Steps
import DebugBridge.Proofs.Bridge.Sound
import DebugBridge.Proofs.Bridge.Ended
import DebugBridge.Proofs.Bridge.Calls
import DebugBridge.Proofs.Bridge.Lifecycle
import DebugBridge.Proofs.Bridge.Frames
import DebugBridge.Proofs.Bridge.Replies
import DebugBridge.Proofs.Bridge.History
import DebugBridge.Proofs.Bridge.Threads
import DebugBridge.Proofs.Bridge.Transcript
import DebugBridge.Proofs.Bridge.Apart
import DebugBridge.Proofs.Bridge.Traffic
import DebugBridge.Proofs.Bridge.Headers
import DebugBridge.Proofs.Bridge.Restore
import DebugBridge.Proofs.Bridge.Raised
import DebugBridge.Proofs.Bridge.Reset
import DebugBridge.Proofs.Bridge.Eager
