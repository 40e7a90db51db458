import Muxrd.Grpc.Helpers
import Muxrd.Grpc.Layout
import Muxrd.Grpc.Spaces
import Muxrd.Relay.Attach

set_option autoImplicit false

namespace Muxrd.Service

open Routing Inbound Attach Helpers
open Registry (mintConnectionId)

abbrev Command := Ticket × RelayControl

/-- One AttachTerminal stream: its relay, and the receiving end of its control channel. -/
structure Connection (State World : Type) where
  channel : Nat
  relay : Relay State World

def Connection.entry {State World : Type} (connection : Connection State World) : ControlEntry :=
  { session := connection.relay.session
    sender := connection.channel
    readOnly := connection.relay.readOnly }

/-- The service with its shared registries and its relays. A relay keeps no copy of what it shares: its
own `viewState` and `world` are those of the service whenever it takes a step. -/
structure MuxrService (State World : Type) where
  control : ControlRegistry
  viewState : ViewStateRegistry
  channels : Channels Command
  connections : AList (fun _ : String => Connection State World)
  -- CloseSpace requests on their way to re-point the relay behind this sender.
  repoints : AList (fun _ : Nat => Nat)
  world : World
  nextTicket : Nat

structure PaneTarget where
  session : String
  connectionId : String
  pane : PaneRef
  deriving DecidableEq, Repr

structure ToggleFullscreenReq where
  target : Option PaneTarget
  hasFloatingHint : Bool
  targetIsFloating : Bool
  floatingVisible : Bool
  targetIsFocusedFloating : Bool
  deriving DecidableEq, Repr

inductive BackendRpc
  | listSessions | getSpaces | scrollPane
  | writeToPane | closePane | newPane | renamePane | resizePane | togglePaneFloating
  | newTab | closeTab | renameTab
  | renameSession | killSession | createSession
  | createSpace | renameSpace
  | createToken | listTokens | revokeToken
  deriving DecidableEq, Repr

def BackendRpc.gated : BackendRpc -> Bool
  | .listSessions | .getSpaces | .scrollPane => false
  | _ => true

inductive Request
  | goToTab (session connectionId : String) (tabId : UInt64)
  | focusPane (target : PaneTarget)
  | togglePaneFullscreen (req : ToggleFullscreenReq)
  | switchSpace (session connectionId spaceId : String)
  -- With what the backend answers to `list_spaces` and `close_space`.
  | closeSpace (session connectionId spaceId : String) (listed : Except String (List SpaceSnapshot))
    (closed : Except String ActionAck)
  | getLayout (session connectionId : String)
  | backend (rpc : BackendRpc)

inductive Outcome
  | acked (ack : ProtoAck)
  | awaiting
  | ephemeral
  deriving DecidableEq, Repr

abbrev Handled (State World : Type) := Outcome × MuxrService State World

section Handlers

variable {Backend State World : Type} (zellijValidate : String -> Except (List Piece) Unit)
  (backends : BackendSet Backend) (service : MuxrService State World) (ticket : Ticket) (caller : Option Bool)

def route (session connectionId : String) (cmd : RelayControl) : Outcome × MuxrService State World :=
  match tryRouteControl service.control service.channels session connectionId (ticket, cmd) with
  | (some ack, channels) => (.acked ack, { service with channels })
  | (none, channels) => (.ephemeral, { service with channels })

def goToTab (session connectionId : String) (tabId : UInt64) : Except Status (Handled State World) := do
  rejectIfReadOnly caller
  let _ ← resolveSession zellijValidate backends session
  return route service ticket session connectionId (.switchTab tabId)

-- No read-only gate.
def focusPane (target : PaneTarget) : Except Status (Handled State World) := do
  let _ ← resolveSession zellijValidate backends target.session
  return route service ticket target.session target.connectionId (.focusPane target.pane)

def ToggleFullscreenReq.hint (req : ToggleFullscreenReq) : Option FloatingHint :=
  if req.hasFloatingHint then
    some
      { targetIsFloating := req.targetIsFloating
        floatingVisible := req.floatingVisible
        targetIsFocusedFloating := req.targetIsFocusedFloating }
  else none

def togglePaneFullscreen (req : ToggleFullscreenReq) : Except Status (Handled State World) := do
  rejectIfReadOnly caller
  match req.target with
  | none => throw { code := .invalidArgument, message := [.text "TogglePaneFullscreen: missing target"] }
  | some target =>
    let _ ← resolveSession zellijValidate backends target.session
    return route service ticket target.session target.connectionId (.toggleFullscreen target.pane req.hint)

def switchSpace (session connectionId spaceId : String) : Except Status (Handled State World) := do
  rejectIfReadOnly caller
  Spaces.validateSpaceId spaceId
  let _ ← resolveSession zellijValidate backends session
  match Spaces.resolveSpaceRelay service.control session connectionId with
  | none => return (.acked reattachRequired, service)
  | some sender =>
    match service.channels.send sender (ticket, .switchSpace spaceId ticket.id) with
    | some channels => return (.awaiting, { service with channels })
    | none =>
      return (.acked { ok := false, error := "SwitchSpace: relay unavailable (tearing down)", info := "" },
        service)

-- `repoint_caller_after_close` up to its own question to the backend.
def startRepoint (session connectionId spaceId : String) : MuxrService State World :=
  if Spaces.connectionCurrentSpace service.viewState session connectionId = some spaceId then
    match Spaces.resolveSpaceRelay service.control session connectionId with
    | some sender => { service with repoints := service.repoints.insert ticket.id sender }
    | none => service
  else service

def closeSpace (session connectionId spaceId : String) (listed : Except String (List SpaceSnapshot))
    (closed : Except String ActionAck) : Except Status (Handled State World) := do
  rejectIfReadOnly caller
  let _ ← resolveSession zellijValidate backends session
  Spaces.validateSpaceId spaceId
  match listed with
  | .error _ => throw { code := .internal, message := [.text "CloseSpace: failed to enumerate spaces"] }
  | .ok spaces =>
    if Spaces.wouldCloseLastSpace spaces.length then
      return (.acked { ok := false, error := "cannot close the last space", info := "" }, service)
    else
      match closed with
      | .error _ => throw { code := .internal, message := [.text "CloseSpace: backend error"] }
      | .ok ack =>
        if ack.ok then
          return (.acked { ok := true, error := "", info := "" },
            startRepoint service ticket session connectionId spaceId)
        else
          return (.acked { ok := ack.ok, error := ack.error.getD "", info := ack.info.getD "" }, service)

def getLayout (session connectionId : String) : Except Status (Handled State World) := do
  let _ ← resolveSession zellijValidate backends session
  match Layout.relayEntry service.control session connectionId with
  | none => return (.ephemeral, service)
  | some (_, sender) =>
    match service.channels.send sender (ticket, .queryLayout ticket.id) with
    | some channels => return (.awaiting, { service with channels })
    | none => return (.ephemeral, service)

def BackendRpc.gate (rpc : BackendRpc) : Except Status Unit :=
  if rpc.gated then rejectIfReadOnly caller else .ok ()

def backendRpc (rpc : BackendRpc) : Except Status (Handled State World) := do
  rpc.gate caller
  return (.ephemeral, service)

def handle : Request -> Except Status (Handled State World)
  | .goToTab session connectionId tabId =>
    goToTab zellijValidate backends service ticket caller session connectionId tabId
  | .focusPane target => focusPane zellijValidate backends service ticket target
  | .togglePaneFullscreen req => togglePaneFullscreen zellijValidate backends service ticket caller req
  | .switchSpace session connectionId spaceId =>
    switchSpace zellijValidate backends service ticket caller session connectionId spaceId
  | .closeSpace session connectionId spaceId listed closed =>
    closeSpace zellijValidate backends service ticket caller session connectionId spaceId listed closed
  | .getLayout session connectionId => getLayout zellijValidate backends service ticket session connectionId
  | .backend rpc => backendRpc service caller rpc

end Handlers

inductive Event (Answer State : Type)
  /- AttachTerminal up to the deferred registration: the caller's flag, the first frame, the answer of the
  size query, the answer of `open_attach`, and the minted id and channel. -/
  | attach (caller : Option Bool) (first : FirstFrame) (size : Option (UInt16 × UInt16))
    (opened : Except String State) (random : BitVec 128) (channel : Nat)
  | relay (connectionId : String) (event : Inbound.Event Answer)
  | dequeue (connectionId : String) (query : FloatQuery) (answer : Answer)
  | rpc (id : Nat) (caller : Option Bool) (request : Request)
  | repoint (id : Nat) (listed : Except String (List SpaceSnapshot))
  -- The backend moves: a handler's own call, or another client.
  | elsewhere (answer : Answer)
  -- The concurrent map promises no order to those who iterate over it.
  | reorder (control : ControlRegistry)

section Steps

variable {Backend Answer State World : Type} (zellijValidate : String -> Except (List Piece) Unit)
  (backends : BackendSet Backend) (mux : MuxSender Answer State World)

def empty (world : World) : MuxrService State World :=
  { control := ∅, viewState := ∅, channels := ∅, connections := ∅, repoints := ∅, world, nextTicket := 0 }

def load (service : MuxrService State World) (relay : Relay State World) : Relay State World :=
  { relay with viewState := service.viewState, world := service.world }

def store (service : MuxrService State World) (connection : Connection State World)
    (relay : Relay State World) : MuxrService State World :=
  { service with
    connections := service.connections.insert relay.connectionId { connection with relay }
    viewState := relay.viewState
    world := relay.world }

def dropReceiver (channels : Channels Command) (channel : Nat) : Channels Command :=
  match channels.lookup channel with
  | some found => channels.insert channel { found with receiverAlive := false }
  | none => channels

def settle (service : MuxrService State World) (connection : Connection State World) :
    Inbound.Event Answer -> MuxrService State World
  | .initialised _ =>
    { service with control := service.control.insert connection.relay.connectionId connection.entry }
  | .deregister => { service with control := service.control.erase connection.relay.connectionId }
  -- The inbound task, or the attach future, ends and its receiver with it.
  | .dropGuard _ | .cancelled _ =>
    { service with channels := dropReceiver service.channels connection.channel }
  | _ => service

-- Commands come out of the channel, and what others do to the shared part are their own steps.
def isOwn : Inbound.Event Answer -> Bool
  | .command _ _ _ _ | .sibling _ _ | .elsewhere _ => false
  | _ => true

def attach (service : MuxrService State World) (caller : Option Bool) (first : FirstFrame)
    (size : Option (UInt16 × UInt16)) (opened : Except String State) (random : BitVec 128)
    (channel : Nat) :
    Option (MuxrService State World) :=
  match opening zellijValidate backends (fun _ _ => size) (caller.getD true) first, opened with
  | .ok target, .ok sender =>
    -- Minted ids never repeat, and every channel is new.
    if mintConnectionId random ∈ service.connections ∨ channel ∈ service.channels then none
    else
      some { service with
        connections := service.connections.insert (mintConnectionId random)
          { channel
            relay := attached mux target (mintConnectionId random) sender service.world service.viewState }
        channels := service.channels.insert channel { queue := [], receiverAlive := true } }
  | _, _ => some service

def relayStep (service : MuxrService State World) (connection : Connection State World)
    (event : Inbound.Event Answer) : Option (MuxrService State World) :=
  if isOwn event then
    (Inbound.step mux (load service connection.relay) event).map fun relay =>
      settle (store service connection relay) connection event
  else none

def dequeue (service : MuxrService State World) (connection : Connection State World) (query : FloatQuery)
    (answer : Answer) : Option (MuxrService State World) :=
  match service.channels.lookup connection.channel with
  | some channel =>
    match channel.queue with
    | (ticket, cmd) :: rest =>
      (Inbound.step mux (load service connection.relay) (.command ticket cmd query answer)).map fun relay =>
        { store service connection relay with
          channels := service.channels.insert connection.channel { channel with queue := rest } }
    | [] => none
  | none => none

def repointTarget (listed : Except String (List SpaceSnapshot)) : Option String :=
  match listed with
  | .ok spaces => ((spaces.find? (·.active)).or spaces.head?).map (·.id)
  | .error _ => none

def repoint (service : MuxrService State World) (id : Nat) (listed : Except String (List SpaceSnapshot)) :
    Option (MuxrService State World) :=
  match service.repoints.lookup id with
  | some sender =>
    let rest := { service with repoints := service.repoints.erase id }
    match repointTarget listed with
    | some target =>
      match service.channels.send sender (⟨id, false⟩, .switchSpace target id) with
      | some channels => some { rest with channels }
      | none => some rest
    | none => some rest
  | none => none

def ticketOf (id : Nat) (caller : Option Bool) : Ticket :=
  { id, readOnlyCaller := caller.getD true }

def step (service : MuxrService State World) : Event Answer State -> Option (MuxrService State World)
  | .attach caller first size opened random channel =>
    attach zellijValidate backends mux service caller first size opened random channel
  | .relay connectionId event =>
    match service.connections.lookup connectionId with
    | some connection => relayStep mux service connection event
    | none => none
  | .dequeue connectionId query answer =>
    match service.connections.lookup connectionId with
    | some connection => dequeue mux service connection query answer
    | none => none
  | .rpc id caller request =>
    -- Requests are numbered as they come.
    if service.nextTicket ≤ id then
      match handle zellijValidate backends service (ticketOf id caller) caller request with
      | .ok (_, after) => some { after with nextTicket := id + 1 }
      | .error _ => some { service with nextTicket := id + 1 }
    else none
  | .repoint id listed => repoint service id listed
  | .elsewhere answer => some { service with world := mux.elsewhere answer service.world }
  | .reorder control =>
    if control.entries.Perm service.control.entries then some { service with control } else none

def Reachable (service : MuxrService State World) : Prop :=
  ∃ world, Transition.Reachable (step zellijValidate backends mux) (empty world) service

end Steps

section Views

variable {State World : Type} (service : MuxrService State World) (key : String)

def nextCommand : Option Command :=
  (service.connections.lookup key).bind fun connection =>
    (service.channels.lookup connection.channel).bind fun channel => channel.queue.head?

def callsOf : List (Cause × MuxCall) :=
  ((service.connections.lookup key).map (·.relay.calls)).getD []

end Views

end Muxrd.Service
