import TfScale.Lib.Bytes
import TfScale.Lib.Text
import TfScale.Lib.Numerals
import TfScale.Lib.Utf8
import TfScale.Lib.Calendar
import TfScale.Lib.LineReader
import TfScale.Lib.SlidingWindow
import TfScale.Lib.Run
import TfScale.Lib.History
import TfScale.Lib.Periodic
import TfScale.Lib.Outcomes
import TfScale.Lib.Fallible
import TfScale.Lib.Mutex
import TfScale.Lib.HashMap
import TfScale.Lib.Table
import TfScale.Lib.Base64
import TfScale.Net.Addr
import TfScale.Net.AddrText
import TfScale.Net.Backend
import TfScale.Core.Protocol
import TfScale.Custom.Frame
import TfScale.Custom.Nonce
import TfScale.Custom.WindowRefinement
import TfScale.Custom.Externals
import TfScale.Custom.Crypto
import TfScale.Custom.Channel
import TfScale.Custom.Rejection
import TfScale.Custom.NonceUniqueness
import TfScale.Custom.Transport
import TfScale.Custom.Runtime
import TfScale.Custom.RelaySender
import TfScale.Custom.DataPath
import TfScale.Custom.ProbeTimestamps
import TfScale.Custom.Backend
import TfScale.Custom.Footprint
import TfScale.Custom.Status
import TfScale.Custom.Locking
import TfScale.Custom.Sections
import TfScale.Custom.Preserved
import TfScale.Custom.Replay
import TfScale.Custom.Paths
import TfScale.Custom.Routing
import TfScale.Custom.Fallback
import TfScale.Custom.PeerTimeline
import TfScale.Custom.GivenUp
import TfScale.Custom.ProbeIsolation
import TfScale.Custom.EndpointChoice
import TfScale.Custom.EndpointOrder
import TfScale.Custom.Accounting
import TfScale.Custom.RelayReading
import TfScale.Custom.Tunnel
import TfScale.Custom.Coherence
import TfScale.Custom.Injection
import TfScale.Custom.Reapply
import TfScale.Custom.PeerSessions
import TfScale.Custom.StateStore
import TfScale.Custom.StateFile
import TfScale.Custom.ProbeRate
import TfScale.Custom.Workers
import TfScale.Custom.FrameCodec
import TfScale.Custom.KeyInputs
import TfScale.Custom.ProbeDeadline
import TfScale.Custom.Emissions
import TfScale.Agent.NetworkMap
import TfScale.Agent.Sync
import TfScale.Agent.AppliedMap
import TfScale.Agent.BadMap
import TfScale.Agent.Dns
import TfScale.Agent.Questions
import TfScale.Agent.Responses
import TfScale.Agent.Endpoints
import TfScale.Relay.Session
import TfScale.Relay.Trace
import TfScale.Relay.Reconnect
import TfScale.Relay.Cleanup
import TfScale.Relay.Routing
import TfScale.Relay.TwoConnections
import TfScale.Control.Schema
import TfScale.Control.Queries
import TfScale.Control.Requests
import TfScale.Control.AuthKeys
import TfScale.Control.Registration
import TfScale.Control.Addresses
import TfScale.Control.DnsMirror
import TfScale.Control.NameAllocation
import TfScale.Control.Version
import TfScale.Control.Acceptance
import TfScale.Control.Detection
import TfScale.Control.Resolution
import TfScale.Control.LabelBoundaries
import TfScale.Control.Labels
import TfScale.Control.Hostnames
import TfScale.Control.Reenrolment
import TfScale.Control.Reports
import TfScale.Control.Expiry
import TfScale.Control.Isolation
import TfScale.Control.EndpointProbe
import TfScale.Control.Snapshot
import TfScale.Control.Lifetimes
import TfScale.Control.ServedMaps
import TfScale.Control.Provenance
import TfScale.Control.Progress
import TfScale.Control.Migrations
import TfScale.Agent.Enrolment
import TfScale.Agent.Reporting
import TfScale.Agent.Loop
import TfScale.System.Overlay
import TfScale.System.Enrolment
import TfScale.System.ClosedLoop
import TfScale.System.Convergence
import TfScale.System.RoundTrip
