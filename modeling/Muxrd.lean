import Muxrd.Lib.Run
import Muxrd.Lib.Tables
import Muxrd.Lib.Controller
import Muxrd.Lib.Framing
import Muxrd.Lib.Transport
import Muxrd.Lib.Intern
import Muxrd.Lib.FirstSeen
import Muxrd.Lib.Serving
import Muxrd.Lib.Visible
import Muxrd.Lib.Weight
import Muxrd.Lib.Grouping
import Muxrd.Lib.Net
import Muxrd.Lib.NetText
import Muxrd.Lib.SocketAddr
import Muxrd.Lib.Utf8
import Muxrd.Lib.Base64
import Muxrd.Lib.Uri
import Muxrd.Types
import Muxrd.Multiplexer.Routing
import Muxrd.Multiplexer.RoundTrip
import Muxrd.Multiplexer.Sender
import Muxrd.Multiplexer.Zellij
import Muxrd.Multiplexer.Actions
import Muxrd.Relay.Registry
import Muxrd.Relay.Inbound
import Muxrd.Relay.Shared
import Muxrd.Relay.Commands
import Muxrd.Relay.Attach
import Muxrd.Relay.Views
import Muxrd.Relay.Answers
import Muxrd.Relay.Arms
import Muxrd.Relay.Forwarding
import Muxrd.Relay.Nudge
import Muxrd.Relay.ReadOnly
import Muxrd.Relay.Reader
import Muxrd.Relay.Query
import Muxrd.Relay.Attribution
import Muxrd.Relay.Teardown
import Muxrd.Relay.Watch
import Muxrd.Herdr.Registry
import Muxrd.Herdr.Stability
import Muxrd.Herdr.Wire
import Muxrd.Herdr.Control
import Muxrd.Herdr.Workspaces
import Muxrd.Herdr.Sender
import Muxrd.Herdr.Frames
import Muxrd.Herdr.Focus
import Muxrd.Herdr.Atomicity
import Muxrd.Herdr.Deframing
import Muxrd.Herdr.Input
import Muxrd.Herdr.Labels
import Muxrd.Herdr.Lines
import Muxrd.Herdr.Polls
import Muxrd.Herdr.Terminals
import Muxrd.Herdr.Selection
import Muxrd.Herdr.Snapshot
import Muxrd.Grpc.Helpers
import Muxrd.Grpc.Layout
import Muxrd.Grpc.Overrides
import Muxrd.Grpc.OverridePass
import Muxrd.Grpc.Spaces
import Muxrd.Grpc.Siblings
import Muxrd.Grpc.Recovery
import Muxrd.Grpc.Service
import Muxrd.Grpc.Consistency
import Muxrd.Grpc.Moves
import Muxrd.Grpc.Interleaving
import Muxrd.Grpc.Once
import Muxrd.Grpc.Acknowledged
import Muxrd.Grpc.Refusal
import Muxrd.Grpc.Readers
import Muxrd.Grpc.Shadow
import Muxrd.Grpc.Requests
import Muxrd.Grpc.NonInterference
import Muxrd.Grpc.Navigation
import Muxrd.Grpc.Viewing
import Muxrd.Grpc.CloseSpace
import Muxrd.Grpc.LastSpace
import Muxrd.Grpc.Breadcrumbs
import Muxrd.Relay.Linearity
import Muxrd.Relay.Fidelity
import Muxrd.ClientCount
import Muxrd.Relay.Lifecycle
import Muxrd.Grpc.Sessions
import Muxrd.Tls
import Muxrd.Persistence
import Muxrd.Config
import Muxrd.ConfigFile
import Muxrd.Start
import Muxrd.Panel.State
import Muxrd.Panel.Update
import Muxrd.Panel.Keys
import Muxrd.Panel.Pairing
import Muxrd.Panel.Secret
import Muxrd.Panel.Overlay
import Muxrd.Panel.Server
import Muxrd.Panel.Pinning
import Muxrd.Panel.Saving
import Muxrd.Panel.Dialing
import Muxrd.Panel.Covering
import Muxrd.Panel.Payload
import Muxrd.Panel.Cursors
import Muxrd.Panel.Runner
import Muxrd.Control.Exchange
import Muxrd.Control.Orderly
import Muxrd.Herdr.Addressing
import Muxrd.Herdr.Downlink
import Muxrd.Grpc.Confinement
import Muxrd.Grpc.Revocation
import Muxrd.Relay.Unshrunk
import Muxrd.Relay.Agreement
import Muxrd.Grpc.AtMostOnce
import Muxrd.Relay.Attention
