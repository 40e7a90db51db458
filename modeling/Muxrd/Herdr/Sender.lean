import Muxrd.Herdr.Control
import Muxrd.Herdr.Wire
import Muxrd.Multiplexer.Sender

set_option autoImplicit false

namespace Muxrd.Herdr

open Framing

/-- What the outside decides about one call: herdr's answers, the write's outcome, and the panes and
tabs that other users of the shared registries come to see. -/
structure Answer where
  daemon : Daemon
  socket : SocketWrite
  seenPanes : List PaneInfo
  seenTabs : List String

structure Sent where
  msg : ClientMessage
  panes : HerdrPaneRegistry

/-- What a relay's sender shares: the id registries with everyone, the wire with its clones. -/
structure World where
  ids : Ids
  wire : Sink UInt8
  -- Bookkeeping: the messages whose write came back with ok, each with the pane registry at that time.
  sent : List Sent

def Sent.attachment (sent : Sent) : Option (String × HerdrPaneRegistry) :=
  match sent.msg with
  | .attachTerminal terminalId _ => some (terminalId, sent.panes)
  | _ => none

def lastAttach (sent : List Sent) : Option (String × HerdrPaneRegistry) :=
  (sent.filterMap Sent.attachment).getLast?

def World.attachedTo (world : World) : Option (String × HerdrPaneRegistry) :=
  lastAttach world.sent

theorem lastAttach_append (sent : List Sent) (entry : Sent) :
    lastAttach (sent ++ [entry]) = entry.attachment.or (lastAttach sent) := by
  unfold lastAttach
  rw [List.filterMap_append, List.getLast?_append]
  cases attached : entry.attachment <;> simp [attached]

structure HerdrMuxSender where
  workspaceId : String
  currentTerminalId : String
  deriving DecidableEq, Repr

section Resolve

structure Pick where
  registry : HerdrPaneRegistry
  first : Option String
  focused : Option String

def Pick.start (registry : HerdrPaneRegistry) : Pick :=
  { registry, first := none, focused := none }

def pickStep (inScope : PaneInfo -> Bool) (pick : Pick) (pane : PaneInfo) : Pick :=
  let registry := (pick.registry.assignOrGet pane.paneId pane.terminalId).2
  if inScope pane then
    { registry
      first := pick.first.orElse fun _ => some pane.terminalId
      focused := if pane.focused then some pane.terminalId else pick.focused }
  else { pick with registry }

-- Registers every pane, and picks the focused terminal in scope or else the first.
def pickTerminal (inScope : PaneInfo -> Bool) (panes : List PaneInfo) (registry : HerdrPaneRegistry) :
    Option String × HerdrPaneRegistry :=
  let pick := panes.foldl (pickStep inScope) (Pick.start registry)
  (pick.focused.orElse fun _ => pick.first, pick.registry)

def listPanesFailed (workspaceId message : String) : String :=
  "list herdr panes for workspace '" ++ workspaceId ++ "': " ++ message

def resolveFocusedTerminal (api : Api) (workspaceId : String) (ids : Ids) : Except String String × Ids :=
  match api.paneList workspaceId with
  | .error message => (.error (listPanesFailed workspaceId message), ids)
  | .ok panes =>
    match pickTerminal (fun _ => true) panes ids.panes with
    | (some terminalId, registry) => (.ok terminalId, { ids with panes := registry })
    | (none, registry) =>
      (.error ("herdr workspace '" ++ workspaceId ++ "' has no panes to attach"),
        { ids with panes := registry })

def resolveTabFocusedPane (api : Api) (workspaceId herdrTabId : String) (ids : Ids) :
    Except String String × Ids :=
  match api.paneList workspaceId with
  | .error message => (.error (listPanesFailed workspaceId message), ids)
  | .ok panes =>
    match pickTerminal (·.tabId = herdrTabId) panes ids.panes with
    | (some terminalId, registry) => (.ok terminalId, { ids with panes := registry })
    | (none, registry) =>
      (.error ("herdr tab '" ++ herdrTabId ++ "' (ws '" ++ workspaceId ++ "') has no panes to attach"),
        { ids with panes := registry })

end Resolve

section Sender

variable (serialize : ClientMessage -> Except String (List UInt8))

def write (context : String) (msg : ClientMessage) (socket : SocketWrite) (world : World) :
    Except String Unit × World :=
  let (result, wire) := writeMessage serialize msg socket world.wire
  let sent := if result.isOk then world.sent ++ [{ msg, panes := world.ids.panes }] else world.sent
  (result.mapError fun error => context ++ error.display, { world with wire, sent })

@[simp] theorem write_ids (context : String) (msg : ClientMessage) (socket : SocketWrite) (world : World) :
    (write serialize context msg socket world).2.ids = world.ids := rfl

theorem write_sent {context : String} {msg : ClientMessage} {socket : SocketWrite} {world after : World}
    {result : Except String Unit} (written : write serialize context msg socket world = (result, after)) :
    after.sent = if result.isOk then world.sent ++ [{ msg, panes := world.ids.panes }] else world.sent := by
  unfold write at written
  generalize writeMessage serialize msg socket world.wire = outcome at written
  rcases outcome with ⟨_ | done, wire⟩
  · rw [← (Prod.mk.inj written).1, ← (Prod.mk.inj written).2]
    rfl
  · rw [← (Prod.mk.inj written).1, ← (Prod.mk.inj written).2]
    rfl

theorem write_failed {context : String} {msg : ClientMessage} {socket : SocketWrite} {world after : World}
    {message : String} (failed : write serialize context msg socket world = (.error message, after)) :
    after.attachedTo = world.attachedTo :=
  congrArg lastAttach (write_sent serialize failed)

theorem write_attaches {context terminalId : String} {takeover : Bool} {socket : SocketWrite} {world after : World}
    {value : Unit}
    (done : write serialize context (.attachTerminal terminalId takeover) socket world = (.ok value, after)) :
    after.attachedTo = some (terminalId, world.ids.panes) := by
  have sent : after.sent = world.sent ++ [_] := write_sent serialize done
  unfold World.attachedTo
  rw [sent, lastAttach_append]
  rfl

theorem write_elsewise (context : String) {msg : ClientMessage} {socket : SocketWrite} {world : World}
    (other : Sent.attachment { msg, panes := world.ids.panes } = none) :
    (write serialize context msg socket world).2.attachedTo = world.attachedTo := by
  rcases written : write serialize context msg socket world with ⟨message | done, after⟩
  · exact write_failed serialize written
  · have sent : after.sent = world.sent ++ [_] := write_sent serialize written
    change lastAttach after.sent = _
    rw [sent, lastAttach_append, other]
    rfl

def send (msg : ClientMessage) (socket : SocketWrite) (world : World) : Except String Unit × World :=
  write serialize "herdr wire write failed: " msg socket world

def reattach (terminalId : String) (socket : SocketWrite) (sender : HerdrMuxSender) (world : World) :
    Except String Unit × HerdrMuxSender × World :=
  match send serialize (.attachTerminal terminalId true) socket world with
  | (.error message, after) => (.error message, sender, after)
  | (.ok _, after) =>
    (.ok (), { sender with currentTerminalId := terminalId }, after)

def goToTab (answer : Answer) (tabId : UInt64) (sender : HerdrMuxSender) (world : World) :
    Except String Unit × HerdrMuxSender × World :=
  match world.ids.tabs.herdrTabId tabId with
  | none => (.error ("herdr go_to_tab: unknown tab id " ++ toString tabId), sender, world)
  | some herdrTab =>
    match resolveTabFocusedPane (answer.daemon 0) sender.workspaceId herdrTab world.ids with
    | (.error message, ids) => (.error message, sender, { world with ids })
    | (.ok terminalId, ids) => reattach serialize terminalId answer.socket sender { world with ids }

def focusPane (answer : Answer) (pane : PaneRef) (sender : HerdrMuxSender) (world : World) :
    Except String Unit × HerdrMuxSender × World :=
  match world.ids.panes.terminalId pane.id with
  | none => (.error ("herdr focus_pane: unknown pane id " ++ toString pane.id), sender, world)
  | some terminalId => reattach serialize terminalId answer.socket sender world

def switchSpace (answer : Answer) (spaceId : String) (sender : HerdrMuxSender) (world : World) :
    Except String Unit × HerdrMuxSender × World :=
  match resolveFocusedTerminal (answer.daemon 0) spaceId world.ids with
  | (.error message, ids) => (.error message, sender, { world with ids })
  | (.ok terminalId, ids) =>
    match reattach serialize terminalId answer.socket sender { world with ids } with
    | (.error message, sender, after) => (.error message, sender, after)
    | (.ok _, sender, after) => (.ok (), { sender with workspaceId := spaceId }, after)

-- A failed zoom ack is only logged, and the wire stays where it is.
def toggleFullscreen (answer : Answer) (pane : PaneRef) (sender : HerdrMuxSender) (world : World) :
    Except String Unit × HerdrMuxSender × World :=
  match zoomPane answer.daemon pane.id world.ids with
  | .error message => (.error message, sender, world)
  | .ok _ => (.ok (), sender, world)

def cellPxDisabled : UInt32 := 0

def call (answer : Answer) (muxCall : MuxCall) (sender : HerdrMuxSender) (world : World) :
    Except String Unit × HerdrMuxSender × World :=
  let written (msg : ClientMessage) : Except String Unit × HerdrMuxSender × World :=
    let (result, after) := send serialize msg answer.socket world
    (result, sender, after)
  match muxCall with
  | .goToTab tabId => goToTab serialize answer tabId sender world
  | .focusPane pane => focusPane serialize answer pane sender world
  | .switchSpace spaceId => switchSpace serialize answer spaceId sender world
  | .toggleFullscreen pane _ => toggleFullscreen answer pane sender world
  | .sendInputChars text => written (.input (RustStd.asBytes text))
  | .sendInputBytes bytes => written (.input bytes)
  | .sendResize rows cols => written (.resize cols rows cellPxDisabled cellPxDisabled)
  | .sendClientExited => written .detach
  -- Layout is answered out of band.
  | .queryLayout | .queryLayoutResult => (.ok (), sender, world)

def queryLayoutResult (answer : Answer) (sender : HerdrMuxSender) (world : World) :
    Option (Except String LayoutSnapshot) × HerdrMuxSender × World :=
  let (result, ids) := queryLayout answer.daemon sender.workspaceId world.ids
  (some result, sender, { world with ids })

-- Other connections and the backend itself enter what they list into the shared registries.
def elsewhere (answer : Answer) (world : World) : World :=
  { world with
    ids :=
      { panes := registerPanes answer.seenPanes world.ids.panes
        tabs := answer.seenTabs.foldl (fun tabs tab => (tabs.assignOrGet tab).2) world.ids.tabs } }

def muxSender : MuxSender Answer HerdrMuxSender World :=
  { call := call serialize
    hasSyncLayout := true
    queryLayoutResult
    boxClone := id
    elsewhere }

end Sender

section Attach

def herdrProtocolVersion : UInt32 := 14

inductive ServerMessage
  | welcome (version : UInt32) (encoding : RenderEncoding) (error : Option String)
  -- Anything else: the handshake only tells that it is not a welcome.
  | other
  deriving DecidableEq, Repr

def assertWelcome : ServerMessage -> Except String Unit
  | .other => .error "herdr handshake: expected Welcome, got a different message first"
  | .welcome _ _ (some error) => .error ("herdr rejected the handshake: " ++ error)
  | .welcome version _ none =>
    if version = herdrProtocolVersion then .ok ()
    else
      .error ("herdr wire protocol mismatch: server speaks v" ++ toString version ++
        ", muxrd requires v" ++ toString herdrProtocolVersion)

-- `split` covers cloning the socket and setting its timeouts.
structure Handshake where
  connect : Except String Unit
  hello : SocketWrite
  welcome : Except String ServerMessage
  attach : SocketWrite
  split : Except String Unit

def helloMessage (rows cols : UInt16) : ClientMessage :=
  .hello herdrProtocolVersion cols rows cellPxDisabled cellPxDisabled .terminalAnsi .server .terminalAttach

variable (serialize : ClientMessage -> Except String (List UInt8))

def handshakeSteps (handshake : Handshake) (terminalId : String) (rows cols : UInt16) (world : World) :
    Except String Unit × World :=
  match handshake.connect with
  | .error message => (.error message, world)
  | .ok _ =>
    match write serialize "send herdr Hello: " (helloMessage rows cols) handshake.hello world with
    | (.error message, greeted) => (.error message, greeted)
    | (.ok _, greeted) =>
      match handshake.welcome with
      | .error message => (.error ("read herdr Welcome: " ++ message), greeted)
      | .ok welcome =>
        match assertWelcome welcome with
        | .error message => (.error message, greeted)
        | .ok _ =>
          match write serialize "send herdr AttachTerminal: " (.attachTerminal terminalId true)
            handshake.attach greeted with
          | (.error message, after) => (.error message, after)
          | (.ok _, after) => (handshake.split, after)

-- `open_attach`: the same for a read-only attach, which takes the terminal over as well.
def openAttach (api : Api) (handshake : Handshake) (workspaceId : String) (rows cols : UInt16)
    (ids : Ids) :
    Except String HerdrMuxSender × World :=
  let fresh (ids : Ids) : World := { ids, wire := Sink.empty, sent := [] }
  match resolveFocusedTerminal api workspaceId ids with
  | (.error message, ids) => (.error message, fresh ids)
  | (.ok terminalId, ids) =>
    match handshakeSteps serialize handshake terminalId rows cols (fresh ids) with
    | (.error message, after) => (.error message, after)
    | (.ok _, after) => (.ok { workspaceId, currentTerminalId := terminalId }, after)

-- `HerdrBackend::open_attach`: the workspace is resolved first, at a moment of its own.
def backendOpenAttach (daemon : Daemon) (handshake : Handshake) (session : String) (rows cols : UInt16)
    (ids : Ids) : Except String HerdrMuxSender × World :=
  match resolveWorkspace (daemon 0) session with
  | .error message => (.error message, { ids, wire := Sink.empty, sent := [] })
  | .ok workspaceId => openAttach serialize (daemon 1) handshake workspaceId rows cols ids

end Attach

end Muxrd.Herdr
